import Tailnet.Proofs.Policy.Integrity
import Tailnet.Proofs.Policy.Locality
import Tailnet.Proofs.Port.Grammar

/-!
The destinations of compiled policies. A validation judges a destination without the white space
around its parts and without the brackets around its target, and takes the digits of all scripts,
while the policy holds it as it was written. A token of visible ASCII characters leaves nothing of
that but the brackets.
-/

namespace Tailnet

open Text

section Ports

/-- A port, or two in their order with a hyphen between them, each in no more digits than a numeral
may have. -/
inductive IsPortEntry (counts : Char → Bool) : List Char → Prop where
  | port {cs : List Char} {port : Nat} (h : IsPort counts cs port)
      (hLength : cs.length ≤ Integer.maxDigits) : IsPortEntry counts cs
  | range {before after : List Char} {first last : Nat} (hFirst : IsPort counts before first)
      (hFirstLength : before.length ≤ Integer.maxDigits) (hLast : IsPort counts after last)
      (hLastLength : after.length ≤ Integer.maxDigits) (hOrder : first ≤ last) :
      IsPortEntry counts (before ++ '-' :: after)

theorem IsPortEntry.counts_or_hyphen {counts : Char → Bool} {cs : List Char}
    (h : IsPortEntry counts cs) : ∀ c ∈ cs, counts c = true ∨ c = '-' := by
  cases h with
  | port hPort => exact fun c hc => .inl (hPort.digits c hc)
  | range hFirst _ hLast =>
      intro c hc
      rcases List.mem_append.mp hc with hc | hc
      · exact .inl (hFirst.digits c hc)
      · exact (List.mem_cons.mp hc).symm.imp_left (hLast.digits c)

/-- An asterisk, or entries with commas between them. What does not count around an entry is
stripped. -/
def IsPortList (counts : Char → Bool) (strip : List Char → List Char) (cs : List Char) : Prop :=
  cs = ['*'] ∨ ∀ entry ∈ splitAt ',' cs, IsPortEntry counts (strip entry)

theorem IsPortList.notMem {cs : List Char} (h : IsPortList Char.isDigit id cs) {c : Char}
    (hDigit : c.isDigit = false) (hMarks : c ∉ ['*', ',', '-']) : c ∉ cs := by
  rw [List.mem_cons, List.mem_cons, List.mem_singleton, not_or, not_or] at hMarks
  intro hIn
  obtain rfl | hEntries := h
  · exact hMarks.1 (List.mem_singleton.mp hIn)
  · obtain ⟨entry, hEntry, hc⟩ := exists_mem_splitAt hIn hMarks.2.1
    rcases (hEntries entry hEntry).counts_or_hyphen c hc with hCounts | hHyphen
    · exact Bool.false_ne_true (hDigit.symm.trans hCounts)
    · exact hMarks.2.2 hHyphen

/-- An entry of the grammar spells a range, and only such entries do. -/
theorem isPortEntry_iff {cs : List Char} :
    IsPortEntry isDecimal cs ↔ ∃ range : PortRange, range.IsSpelled cs := by
  constructor
  · intro h
    cases h with
    | @port _ port hPort hLength =>
        exact ⟨⟨port, port, hPort.one_le, le_rfl, hPort.le⟩, .port hPort hLength rfl⟩
    | @range before after first last hFirst hFirstLength hLast hLastLength hOrder =>
        exact ⟨⟨first, last, hFirst.one_le, hOrder, hLast.le⟩,
          .ends hFirst hFirstLength hLast hLastLength⟩
  · rintro ⟨range, hSpelled⟩
    cases hSpelled with
    | port hPort hLength => exact .port hPort hLength
    | ends hFirst hFirstLength hLast hLastLength =>
        exact .range hFirst hFirstLength hLast hLastLength range.first_le

theorem exists_forall₂ {α β : Type} {relates : α → β → Prop} {items : List α}
    (h : ∀ item ∈ items, ∃ partner, relates item partner) :
    ∃ partners, List.Forall₂ relates items partners := by
  induction items with
  | nil => exact ⟨[], .nil⟩
  | cons item rest ih =>
      rw [List.forall_mem_cons] at h
      obtain ⟨partner, hPartner⟩ := h.1
      obtain ⟨partners, hPartners⟩ := ih h.2
      exact ⟨partner :: partners, .cons hPartner hPartners⟩

/-- Ports are read exactly if they are written in the grammar, apart from white space. -/
theorem exists_read_iff {s : String} :
    (∃ ports, PortSet.read s = .ok ports) ↔
      IsPortList isDecimal trimChars (trimChars s.toList) := by
  have hEntries :
      (∀ entry ∈ splitAt ',' (trimChars s.toList), IsPortEntry isDecimal (trimChars entry)) ↔
        ∀ entry ∈ PortSet.entries s, ∃ range : PortRange, range.IsSpelled entry := by
    rw [PortSet.entries_eq, List.forall_mem_map]
    simp only [isPortEntry_iff]
  rw [IsPortList, hEntries]
  constructor
  · rintro ⟨ports, hRead⟩
    cases ports with
    | all => exact .inl (PortSet.trimChars_eq_star_iff.mpr (PortSet.read_eq_ok_all_iff.mp hRead))
    | ranges list =>
        exact .inr fun entry => (PortSet.read_eq_ok_ranges_iff.mp hRead).exists_isSpelled
  · rintro (hAll | hRanges)
    · exact ⟨.all, PortSet.read_eq_ok_all_iff.mpr (PortSet.trimChars_eq_star_iff.mp hAll)⟩
    · obtain ⟨list, hSpells⟩ := exists_forall₂ hRanges
      exact ⟨.ranges list, PortSet.read_eq_ok_ranges_iff.mpr hSpells⟩

/-- Characters that are visible and belong to ASCII. -/
def isPlain (c : Char) : Bool := 0x21 ≤ c.toNat && c.toNat ≤ 0x7E

theorem trimChars_of_isPlain {cs : List Char} (h : ∀ c ∈ cs, isPlain c = true) :
    trimChars cs = cs := by
  have hVisible : ∀ c ∈ cs, isBlank c = false := by
    intro c hc
    have hBounds := h c hc
    rw [isPlain, Bool.and_eq_true, decide_eq_true_eq, decide_eq_true_eq] at hBounds
    exact isBlank_eq_false_of_visible hBounds.1 hBounds.2
  exact trimChars_of_isTrimmed ⟨fun c hc => hVisible c (List.mem_of_mem_head? hc),
    fun c hc => hVisible c (List.mem_of_mem_getLast? hc)⟩

theorem IsPort.ascii {cs : List Char} {port : Nat} (h : IsPort isDecimal cs port)
    (hPlain : ∀ c ∈ cs, isPlain c = true) : IsPort Char.isDigit cs port := by
  refine ⟨h.ne_nil, fun c hc => isDigit_of_isDecimal (h.digits c hc) ?_, h.value, h.one_le, h.le⟩
  have hBounds := hPlain c hc
  rw [isPlain, Bool.and_eq_true, decide_eq_true_eq, decide_eq_true_eq] at hBounds
  exact hBounds.2

/-- In visible ASCII characters the grammar is followed to the letter. -/
theorem IsPortList.ascii {cs : List Char} (h : IsPortList isDecimal trimChars cs)
    (hPlain : ∀ c ∈ cs, isPlain c = true) : IsPortList Char.isDigit id cs := by
  refine h.imp_right fun hEntries entry hEntry => ?_
  have hOwn : ∀ c ∈ entry, isPlain c = true := fun c hc => hPlain c (mem_of_mem_splitAt hEntry hc)
  have hRead := hEntries entry hEntry
  rw [trimChars_of_isPlain hOwn] at hRead
  rw [id]
  cases hRead with
  | port hPort hLength => exact .port (hPort.ascii hOwn) hLength
  | range hFirst hFirstLength hLast hLastLength hOrder =>
      rw [List.forall_mem_append, List.forall_mem_cons] at hOwn
      exact .range (hFirst.ascii hOwn.1) hFirstLength (hLast.ascii hOwn.2.2) hLastLength hOrder

end Ports

section Tokens

/-- The tokens of the destinations of access rules in a policy as data. -/
def destinationTokens (policy : Value) : List String :=
  (policy.part "acls").listItems.flatMap fun rule => (rule.part "dst").textItems

/-- The text of a target: what does not count around it is stripped, after the brackets if it has
both. -/
def targetText (strip : List Char → List Char) (target : List Char) : String :=
  String.ofList (strip (Destination.unbracketed target))

/-- What a token consists of: a target and ports with a colon between them. The target is more than
a mark, and with the principal that its text is read as the catalog finds nothing wrong. The ports
are a list in digits that count. -/
structure IsDestination (counts : Char → Bool) (strip : List Char → List Char) (catalog : Catalog)
    (token target ports : List Char) : Prop where
  cut : token = target ++ ':' :: ports
  colon_notMem : ':' ∉ ports
  named : target ≠ [] ∧ target ++ [':'] ∉ Destination.bareMarks
  target : catalog.finding? (.ofToken (targetText strip target)) = .ok none
  ports : IsPortList counts strip (strip ports)

/-- Whether a validation finds nothing wrong with a destination. -/
def Destination.Passes (catalog : Catalog) (d : Destination) : Prop :=
  d.portError? = none ∧ catalog.finding? d.target = .ok none

/-- A destination in the grammar to the letter. The target is the text of a principal that resolves,
in brackets only if it is an address of the newer family, the ports are in ASCII digits, and there
is no white space around either. -/
def IsStrict (policy : Value) (token : List Char) : Prop :=
  ∃ (text : String) (target ports : List Char), token = target ++ ':' :: ports ∧
    (target = text.toList ∨
      target = '[' :: (text.toList ++ [']']) ∧
        ∃ address, Address.read? text = some address ∧ address.family = .v6) ∧
    Resolves policy text ∧ IsTrimmed text.toList ∧ IsPortList Char.isDigit id ports

/-- The last colon of such a destination stands between its parts. -/
theorem IsStrict.parts {policy : Value} {token target ports : List Char} (h : IsStrict policy token)
    (hCut : cutLast? ':' token = some (target, ports)) :
    (∃ text : String, Resolves policy text ∧
      (target = text.toList ∨
        target = '[' :: (text.toList ++ [']']) ∧ (Address.read? text).isSome = true)) ∧
      IsPortList Char.isDigit id ports := by
  obtain ⟨text, head, list, hToken, hHead, hResolves, -, hList⟩ := h
  have hColon : ':' ∉ list := hList.notMem (by decide) (by decide)
  rw [cutLast?_eq_some_iff.mpr ⟨hToken, hColon⟩] at hCut
  cases hCut
  refine ⟨⟨text, hResolves, hHead.imp_right ?_⟩, hList⟩
  rintro ⟨hBrackets, address, hAddress, -⟩
  exact ⟨hBrackets, Option.isSome_iff_exists.mpr ⟨address, hAddress⟩⟩

theorem mem_of_mem_unbracketed {c : Char} {head : List Char}
    (h : c ∈ Destination.unbracketed head) : c ∈ head := by
  unfold Destination.unbracketed at h
  split at h
  · exact List.mem_of_mem_tail (List.dropLast_subset _ h)
  · exact h

/-- In visible ASCII characters nothing is stripped, and only ASCII digits count. -/
theorem IsDestination.ascii {catalog : Catalog} {token target ports : List Char}
    (h : IsDestination isDecimal trimChars catalog token target ports)
    (hPlain : ∀ c ∈ token, isPlain c = true) :
    IsDestination Char.isDigit id catalog token target ports := by
  have hParts := hPlain
  rw [h.cut, List.forall_mem_append, List.forall_mem_cons] at hParts
  have hTarget : ∀ c ∈ Destination.unbracketed target, isPlain c = true :=
    fun c hc => hParts.1 c (mem_of_mem_unbracketed hc)
  have hText : targetText id target = targetText trimChars target := by
    rw [targetText, targetText, trimChars_of_isPlain hTarget, id]
  refine ⟨h.cut, h.colon_notMem, h.named, hText ▸ h.target, ?_⟩
  have hPorts := h.ports
  rw [trimChars_of_isPlain hParts.2.2] at hPorts
  exact hPorts.ascii hParts.2.2

/-- How a token is read whose last colon has more than a mark before it. -/
theorem read_of_cut {token : String} {target ports : List Char}
    (hCut : trimChars token.toList = target ++ ':' :: ports) (hColon : ':' ∉ ports)
    (hNamed : target ≠ [] ∧ target ++ [':'] ∉ Destination.bareMarks) :
    Destination.read token = ⟨.ofToken (targetText trimChars target), String.ofList ports,
      trim token, PortSet.read (String.ofList ports)⟩ := by
  have hParts : cutLast? ':' (trim token).toList = some (target, ports) := by
    rw [toList_trim]
    exact cutLast?_eq_some_iff.mpr ⟨hCut, hColon⟩
  have hMore : (target.isEmpty || Destination.bareMarks.contains (target ++ [':'])) = false := by
    rw [Bool.or_eq_false_iff, List.isEmpty_eq_false_iff, ← Bool.not_eq_true, List.contains_iff_mem]
    exact hNamed
  have hTarget : Principal.read (String.ofList (Destination.unbracketed target)) =
      .ofToken (targetText trimChars target) := by
    rw [Principal.read, trim, String.toList_ofList, targetText]
  rw [Destination.read, hParts]
  dsimp only
  rw [hMore, if_neg Bool.false_ne_true, hTarget]

/-- A destination passes exactly if it is written in the grammar, apart from white space, with any
principal in brackets and in the digits of any script. -/
theorem passes_iff {catalog : Catalog} {token : String} :
    (Destination.read token).Passes catalog ↔
      ∃ target ports, IsDestination isDecimal trimChars catalog (trimChars token.toList) target
        ports := by
  have hPorts (d : Destination) : d.portError? = none ↔ ∃ set, d.portSet = .ok set := by
    rw [Destination.portError?]
    cases d.portSet <;> simp
  constructor
  · rintro ⟨hNone, hTarget⟩
    obtain ⟨target, ports, hCut, hColon, hNamed⟩ : ∃ target ports,
        trimChars token.toList = target ++ ':' :: ports ∧ ':' ∉ ports ∧
          target ≠ [] ∧ target ++ [':'] ∉ Destination.bareMarks := by
      rw [Destination.read] at hNone
      cases hCut : cutLast? ':' (trim token).toList with
      | none =>
          rw [hCut] at hNone
          cases hNone
      | some parts =>
          rw [hCut] at hNone
          dsimp only at hNone
          split at hNone
          case isTrue => cases hNone
          case isFalse hNamed =>
            rw [Bool.not_eq_true, Bool.or_eq_false_iff, List.isEmpty_eq_false_iff,
              ← Bool.not_eq_true, List.contains_iff_mem] at hNamed
            obtain ⟨hToken, hColon⟩ := cutLast?_eq_some_iff.mp hCut
            rw [toList_trim] at hToken
            exact ⟨parts.1, parts.2, hToken, hColon, hNamed⟩
    rw [read_of_cut hCut hColon hNamed] at hNone hTarget
    have hList := exists_read_iff.mp ((hPorts _).mp hNone)
    rw [String.toList_ofList] at hList
    exact ⟨target, ports, hCut, hColon, hNamed, hTarget, hList⟩
  · rintro ⟨target, ports, h⟩
    rw [read_of_cut h.cut h.colon_notMem h.named]
    refine ⟨(hPorts _).mpr (exists_read_iff.mpr ?_), h.target⟩
    rw [String.toList_ofList]
    exact h.ports

namespace Document

variable {document : Document}

theorem destinationTokens_toValue (document : Document) :
    destinationTokens document.toValue =
      document.access.flatMap fun rule => rule.destinations.map Destination.raw := by
  obtain ⟨-, -, hAcls, -⟩ := parts_toValue document
  simp [destinationTokens, hAcls, List.flatMap_map, AccessRule.toValue, Value.part_record_cons]

/-- If a document is not violated, all its destinations have ports that can be read. -/
theorem portError?_eq_none (hValid : document.violations = .ok []) {rule : AccessRule}
    (hRule : rule ∈ document.access) {d : Destination} (hd : d ∈ rule.destinations) :
    d.portError? = none := by
  obtain ⟨-, hNone⟩ := violations_eq_ok_iff.mp hValid
  simp only [reported, List.nil_eq, List.append_eq_nil_iff, List.flatMap_eq_nil_iff] at hNone
  obtain ⟨⟨⟨-, hAccess⟩, -⟩, -⟩ := hNone
  obtain ⟨i, hi⟩ := List.getElem?_of_mem hRule
  obtain ⟨j, hj⟩ := List.getElem?_of_mem hd
  have hShape := hAccess (rule, i) (List.mk_mem_zipIdx_iff_getElem?.mpr hi)
  simp only [AccessRule.shape, List.append_eq_nil_iff, List.filterMap_eq_nil_iff] at hShape
  exact Option.map_eq_none_iff.mp (hShape.2 (d, j) (List.mk_mem_zipIdx_iff_getElem?.mpr hj))

end Document

/-- Every destination in the policy that a source is compiled to has no white space around it, and
is written in the grammar apart from white space around its parts. Its target resolves in the
policy, unless its mark is doubled. If it is of visible ASCII characters only, no white space is
left out and its digits are those of ASCII. Nothing else is asked of a destination: whatever is
written like this passes. -/
theorem isDestination_of_compile {source : Source} {lint : Bool} {indent : Option Int}
    {compilation : Compilation} {text : String}
    (hCompile : source.compile lint indent = .ok compilation)
    (hOutput : compilation.output = some text) :
    compilation.document.serialize indent = .ok text ∧
    (∀ token ∈ destinationTokens compilation.document.toValue,
      IsTrimmed token.toList ∧ ∃ target ports,
        IsDestination isDecimal trimChars compilation.document.catalog token.toList target ports ∧
        (isDoublyMarked (targetText trimChars target) = false →
          Resolves compilation.document.toValue (targetText trimChars target)) ∧
        ((∀ c ∈ token.toList, isPlain c = true) →
          IsDestination Char.isDigit id compilation.document.catalog token.toList target ports)) ∧
    ∀ token, (Destination.read token).Passes compilation.document.catalog ↔
      ∃ target ports, IsDestination isDecimal trimChars compilation.document.catalog
        (trimChars token.toList) target ports := by
  obtain ⟨document, hDocument, hValid, hText, rfl⟩ :=
    Source.compile_output_iff.mp ⟨hCompile, hOutput⟩
  refine ⟨hText, fun token hToken => ?_, fun token => passes_iff⟩
  rw [Document.destinationTokens_toValue] at hToken
  obtain ⟨rule, hRule, hIn⟩ := List.mem_flatMap.mp hToken
  obtain ⟨d, hd, rfl⟩ := List.mem_map.mp hIn
  have hRead : Destination.read d.raw = d :=
    (Source.isRead_of_document hDocument).destinations rule hRule d hd
  have hTrimmed : IsTrimmed d.raw.toList := by
    rw [← trim_eq_self_iff, ← Destination.raw_read, hRead]
  have hTarget : document.catalog.finding? d.target = .ok none := by
    refine Source.finding?_eq_ok_none hDocument hValid d.target ?_
    simp only [Document.principals, List.mem_append, List.mem_flatMap]
    exact .inl (.inl (.inr ⟨rule, hRule, List.mem_append_right _ (List.mem_map_of_mem hd)⟩))
  have hPasses : (Destination.read d.raw).Passes document.catalog :=
    hRead.symm ▸ ⟨Document.portError?_eq_none hValid hRule hd, hTarget⟩
  obtain ⟨target, ports, hDestination⟩ := passes_iff.mp hPasses
  rw [trimChars_of_isTrimmed hTrimmed] at hDestination
  refine ⟨hTrimmed, target, ports, hDestination, fun hSingle => ?_, hDestination.ascii⟩
  -- The text of the target is trimmed, so it is read as the principal that it is the text of.
  have hOwn : Principal.read (targetText trimChars target) =
      .ofToken (targetText trimChars target) := by
    refine Principal.read_of_trimmed (trim_eq_self_iff.mpr ?_)
    rw [targetText, String.toList_ofList]
    exact isTrimmed_trimChars _
  have hResolves := passesFor_of_finding? hDocument
    (p := .ofToken (targetText trimChars target))
    (by rw [Principal.raw_ofToken, hOwn]) hDestination.target
  rw [Principal.raw_ofToken] at hResolves
  exact hResolves.resolves_iff.mpr hSingle

/-- The destinations in the policy of the office's source are an instance. -/
theorem isDestination_officeSource :
    ∃ compilation text, officeSource.compile true (some 2) = .ok compilation ∧
      compilation.output = some text ∧ compilation.document.serialize (some 2) = .ok text ∧
      ∀ token ∈ destinationTokens compilation.document.toValue,
        IsTrimmed token.toList ∧ ∃ target ports,
          IsDestination isDecimal trimChars compilation.document.catalog token.toList target
            ports ∧
          (isDoublyMarked (targetText trimChars target) = false →
            Resolves compilation.document.toValue (targetText trimChars target)) ∧
          ((∀ c ∈ token.toList, isPlain c = true) →
            IsDestination Char.isDigit id compilation.document.catalog token.toList target
              ports) := by
  obtain ⟨compilation, text, hCompile, hText⟩ := exists_output_officeSource
  obtain ⟨hSerialize, hTokens, -⟩ := isDestination_of_compile hCompile hText
  exact ⟨compilation, text, hCompile, hText, hSerialize, hTokens⟩

/-- What a run shows of an output. -/
theorem exists_output_of_run {source : Source} {shows : Compilation → Bool}
    (hRun : (source.compile true (some 2)).toOption.any (fun c => c.output.isSome && shows c) =
      true) :
    ∃ compilation text, source.compile true (some 2) = .ok compilation ∧
      compilation.output = some text ∧ shows compilation = true := by
  cases hCompile : source.compile true (some 2) with
  | error cause =>
      rw [hCompile] at hRun
      cases hRun
  | ok compilation =>
      rw [hCompile] at hRun
      obtain ⟨hSome, hShows⟩ := (Bool.and_eq_true _ _).mp hRun
      obtain ⟨text, hText⟩ := Option.isSome_iff_exists.mp hSome
      exact ⟨compilation, text, rfl, hText, hShows⟩

/-- A source with destinations that are not in the grammar to the letter: one with white space
inside it, one with a tag in brackets, and one with the digits of another script. -/
def laxSource : Source :=
  { officeSource with
    groups := []
    tagOwners := [("tag:server", ["admin"])]
    hosts := []
    acls := [⟨"accept", ["tag:server"],
      ["tag:server : 22, 80", "[tag:server]:22", "tag:server:２２"]⟩]
    ssh := []
    exitNode := []
    routes := [] }

/-- The source is compiled to a policy with these destinations. -/
theorem exists_lax_destinations :
    ∃ compilation text, laxSource.compile true (some 2) = .ok compilation ∧
      compilation.output = some text ∧
      destinationTokens compilation.document.toValue =
        ["tag:server : 22, 80", "[tag:server]:22", "tag:server:２２"] ∧
      ∀ token ∈ destinationTokens compilation.document.toValue,
        ¬IsStrict compilation.document.toValue token.toList := by
  have hRun : (laxSource.compile true (some 2)).toOption.any (fun c => c.output.isSome &&
      (destinationTokens c.document.toValue ==
        ["tag:server : 22, 80", "[tag:server]:22", "tag:server:２２"] &&
      ((c.document.toValue.part "hosts").field? "[tag:server]").isNone)) = true := by
    decide +kernel
  obtain ⟨compilation, text, hCompile, hText, hShows⟩ := exists_output_of_run hRun
  obtain ⟨hTokens, hHosts⟩ := (Bool.and_eq_true _ _).mp hShows
  have hSpaced : ¬IsStrict compilation.document.toValue "tag:server : 22, 80".toList := fun h =>
    (h.parts (by decide : _ = some ("tag:server ".toList, " 22, 80".toList))).2.notMem
      (by decide : ' '.isDigit = false) (by decide) (by decide)
  have hForeign : ¬IsStrict compilation.document.toValue "tag:server:２２".toList := fun h =>
    (h.parts (by decide : _ = some ("tag:server".toList, "２２".toList))).2.notMem
      (by decide : '２'.isDigit = false) (by decide) (by decide)
  have hBracketed : ¬IsStrict compilation.document.toValue "[tag:server]:22".toList := by
    intro h
    obtain ⟨⟨written, hResolves, hWritten⟩, -⟩ :=
      h.parts (by decide : _ = some ("[tag:server]".toList, "22".toList))
    rcases hWritten with hWhole | ⟨hInner, hAddress⟩
    · obtain rfl : "[tag:server]" = written := String.toList_inj.mp hWhole
      obtain ⟨address, hAddress⟩ := hResolves.host (by decide +kernel)
      rw [hAddress] at hHosts
      cases hHosts
    · obtain rfl : "tag:server" = written :=
        String.toList_inj.mp (List.append_cancel_right (List.cons.inj hInner).2)
      exact absurd hAddress (by decide +kernel)
  refine ⟨compilation, text, hCompile, hText, beq_iff_eq.mp hTokens, ?_⟩
  rw [beq_iff_eq.mp hTokens, List.forall_mem_cons, List.forall_mem_cons, List.forall_mem_singleton]
  exact ⟨hSpaced, hBracketed, hForeign⟩

end Tokens

end Tailnet
