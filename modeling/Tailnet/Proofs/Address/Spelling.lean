import Mathlib.Data.List.Induction
import Mathlib.Data.Nat.Digits.Defs
import Tailnet.Proofs.Address.Printed

/-!
How addresses and networks may be spelled. An address of the older family has one spelling. In the
newer family groups may have leading zeros and capital letters, a gap may stand for groups of zeros
and a dotted address for the last two groups. The length of a network may be left out, have leading
zeros or be given by a mask.
-/

namespace Tailnet

open Text

/-- The spelling of a number with any number of leading zeros. -/
def IsNumeral (base n : Nat) (cs : List Char) : Prop :=
  ∃ zeros, cs = List.replicate zeros '0' ++ Nat.toDigits base n

/-- The spelling of a group: up to four hexadecimal digits, with leading zeros and capital letters
as one likes. -/
def IsGroup (g : Nat) (cs : List Char) : Prop :=
  cs.length ≤ 4 ∧ IsNumeral 16 g (cs.map Char.toLower)

/-- The spelling of groups between colons. Where that is allowed, a dotted address may stand for the
last two. -/
inductive IsGroups (dotted : Bool) : List Nat → List Char → Prop where
  | last {g : Nat} {cs : List Char} (h : IsGroup g cs) : IsGroups dotted [g] cs
  | lastTwo {number : Nat} (hDotted : dotted = true) (h : number < Nat.pow 2 32) :
      IsGroups dotted [number / 65536, number % 65536] (dottedText number).toList
  | cons {g : Nat} {groups : List Nat} {cs rest : List Char} (hFirst : IsGroup g cs)
      (h : IsGroups dotted groups rest) : IsGroups dotted (g :: groups) (cs ++ ':' :: rest)

/-- The spelling of the groups on one side of a gap, where there may be none. -/
inductive IsSide (dotted : Bool) : List Nat → List Char → Prop where
  | nothing : IsSide dotted [] []
  | groups {gs : List Nat} {cs : List Char} (h : IsGroups dotted gs cs) : IsSide dotted gs cs

/-- The spelling of eight groups, of which one gap may stand for zeros. -/
inductive IsColons : List Nat → List Char → Prop where
  | whole {groups : List Nat} {cs : List Char} (h : IsGroups true groups cs)
      (hLength : groups.length = 8) : IsColons groups cs
  | gap {before after : List Nat} {front back : List Char} {zeros : Nat}
      (hBefore : IsSide false before front) (hAfter : IsSide true after back) (hZeros : 0 < zeros)
      (hLength : before.length + zeros + after.length = 8) :
      IsColons (before ++ List.replicate zeros 0 ++ after) (front ++ ':' :: ':' :: back)

/-- The spelling of an address. A zone is kept as it is written. -/
def Address.IsSpelled (address : Address) (cs : List Char) : Prop :=
  match address.family with
  | .v4 => address.zone = none ∧ cs = (dottedText address.number).toList
  | .v6 =>
    ∃ body, IsColons (groupsOf address.number) body ∧
      match address.zone with
      | none => cs = body
      | some zone =>
        cs = body ++ '%' :: zone.toList ∧ zone ≠ "" ∧ '%' ∉ zone.toList ∧ '/' ∉ zone.toList

/-- The mask of the fixed bits of a network. -/
def netMask (length : Nat) : Nat := Nat.pow 2 32 - Nat.pow 2 (32 - length)

/-- The mask of the bits that are free in a network. -/
def hostMask (length : Nat) : Nat := Nat.pow 2 (32 - length) - 1

/-- The spelling of the length of a network: a number of bits with leading zeros as one likes or, in
the older family, a mask of the fixed or of the free bits. -/
inductive IsLength (family : Family) (length : Nat) : List Char → Prop where
  | bits {cs : List Char} (hDigits : cs.length ≤ Integer.maxDigits) (h : IsNumeral 10 length cs) :
      IsLength family length cs
  | fixed (hFamily : family = .v4) : IsLength family length (dottedText (netMask length)).toList
  | free (hFamily : family = .v4) (hSome : 0 < length) (hNotAll : length < 32) :
      IsLength family length (dottedText (hostMask length)).toList

/-- The spelling of a network, of which any address may be written. A single address is a network
too. -/
inductive Network.IsSpelled (network : Network) : List Char → Prop where
  | alone {cs : List Char} (h : network.address.IsSpelled cs)
      (hAll : network.length = network.address.family.width) : IsSpelled network cs
  | withLength {front back : List Char} (h : network.address.IsSpelled front)
      (hLength : IsLength network.address.family network.length back) :
      IsSpelled network (front ++ '/' :: back)

section Digits

variable {base n : Nat} {cs : List Char}

/-- The number that digits denote, the highest one standing first. -/
def placeValue (base : Nat) (digits : List Nat) : Nat := digits.foldl (fun n d => base * n + d) 0

theorem placeValue_append_singleton (digits : List Nat) (d : Nat) :
    placeValue base (digits ++ [d]) = base * placeValue base digits + d := by
  simp [placeValue]

theorem placeValue_replicate_zero_append (zeros : Nat) (digits : List Nat) :
    placeValue base (List.replicate zeros 0 ++ digits) = placeValue base digits := by
  induction zeros with
  | zero => rfl
  | succ zeros ih => simpa [placeValue, List.replicate_succ] using ih

theorem placeValue_eq_ofDigits (digits : List Nat) :
    placeValue base digits = Nat.ofDigits base digits.reverse := by
  simp [placeValue, Nat.ofDigits_eq_foldr, List.foldr_reverse, Nat.add_comm]

/-- As many digits denote different numbers if they are different. -/
theorem placeValue_inj (hBase : 1 < base) {digits others : List Nat}
    (hLength : digits.length = others.length) (hDigits : ∀ d ∈ digits, d < base)
    (hOthers : ∀ d ∈ others, d < base) (h : placeValue base digits = placeValue base others) :
    digits = others := by
  rw [placeValue_eq_ofDigits, placeValue_eq_ofDigits] at h
  have hReversed := Nat.ofDigits_inj_of_len_eq hBase (by simpa using hLength)
    (by simpa using hDigits) (by simpa using hOthers) h
  exact List.reverse_injective hReversed

/-- Digits are a numeral of their number. -/
theorem isNumeral_placeValue (hBase : 1 < base) {digits : List Nat} (hNe : digits ≠ [])
    (h : ∀ d ∈ digits, d < base) :
    IsNumeral base (placeValue base digits) (digits.map Nat.digitChar) := by
  induction digits using List.reverseRecOn with
  | nil => exact absurd rfl hNe
  | append_singleton digits d ih =>
      have hLast : d < base := h d (by simp)
      rw [placeValue_append_singleton, List.map_append, List.map_singleton]
      by_cases hEmpty : digits = []
      · subst hEmpty
        refine ⟨0, ?_⟩
        simp [placeValue, Nat.toDigits_of_lt_base hLast]
      · obtain ⟨zeros, hFront⟩ := ih hEmpty fun e he => h e (List.mem_append_left _ he)
        by_cases hZero : placeValue base digits = 0
        · refine ⟨zeros + 1, ?_⟩
          rw [hZero] at hFront ⊢
          rw [hFront, Nat.mul_zero, Nat.zero_add, Nat.toDigits_of_lt_base hLast,
            Nat.toDigits_zero, List.replicate_succ']
        · refine ⟨zeros, ?_⟩
          rw [hFront, List.append_assoc,
            ← Nat.toDigits_append_toDigits hBase (Nat.pos_of_ne_zero hZero) hLast,
            Nat.toDigits_of_lt_base hLast]

/-- Every numeral consists of digits. -/
theorem IsNumeral.exists_digits (hBase : 1 < base) (h : IsNumeral base n cs) :
    ∃ digits, digits ≠ [] ∧ (∀ d ∈ digits, d < base) ∧ cs = digits.map Nat.digitChar ∧
      placeValue base digits = n := by
  have hPlain : ∃ digits, digits ≠ [] ∧ (∀ d ∈ digits, d < base) ∧
      Nat.toDigits base n = digits.map Nat.digitChar ∧ placeValue base digits = n := by
    clear h
    induction n using Nat.strongRecOn with
    | _ n ih =>
        by_cases hSmall : n < base
        · refine ⟨[n], List.cons_ne_nil _ _, by simpa using hSmall, ?_, by simp [placeValue]⟩
          rw [Nat.toDigits_of_lt_base hSmall, List.map_singleton]
        · have hLess : n / base < n := Nat.div_lt_self (by omega) hBase
          obtain ⟨digits, -, hDigits, hSpelled, hValue⟩ := ih _ hLess
          refine ⟨digits ++ [n % base], by simp, ?_, ?_, ?_⟩
          · rw [List.forall_mem_append]
            exact ⟨hDigits, by simpa using Nat.mod_lt n (by omega)⟩
          · rw [Nat.toDigits_of_base_le hBase (by omega), hSpelled, List.map_append,
              List.map_singleton]
          · rw [placeValue_append_singleton, hValue]
            exact Nat.div_add_mod n base
  obtain ⟨zeros, rfl⟩ := h
  obtain ⟨digits, hNe, hDigits, hSpelled, hValue⟩ := hPlain
  refine ⟨List.replicate zeros 0 ++ digits, by simp [hNe], ?_, ?_, ?_⟩
  · rw [List.forall_mem_append]
    refine ⟨fun d hd => ?_, hDigits⟩
    rw [List.eq_of_mem_replicate hd]
    omega
  · rw [hSpelled, List.map_append, List.map_replicate]
    rfl
  · rw [placeValue_replicate_zero_append, hValue]

theorem isNumeral_iff (hBase : 1 < base) :
    IsNumeral base n cs ↔ ∃ digits, digits ≠ [] ∧ (∀ d ∈ digits, d < base) ∧
      cs = digits.map Nat.digitChar ∧ placeValue base digits = n := by
  constructor
  · exact IsNumeral.exists_digits hBase
  · rintro ⟨digits, hNe, hDigits, rfl, rfl⟩
    exact isNumeral_placeValue hBase hNe hDigits

end Digits

section Reading

theorem toNat_toLower (c : Char) :
    c.toLower.toNat = if 65 ≤ c.toNat ∧ c.toNat ≤ 90 then c.toNat + 32 else c.toNat := by
  have hLetter : c.val ≥ 'A'.val ∧ c.val ≤ 'Z'.val ↔ 65 ≤ c.toNat ∧ c.toNat ≤ 90 := by
    rw [ge_iff_le, UInt32.le_iff_toNat_le, UInt32.le_iff_toNat_le]
    rfl
  by_cases h : c.val ≥ 'A'.val ∧ c.val ≤ 'Z'.val
  · have hLower : c.toLower.toNat = (c.val + 32).toNat := congrArg Char.toNat (dif_pos h)
    have hBound : c.val.toNat ≤ 90 := (hLetter.mp h).2
    rw [if_pos (hLetter.mp h), hLower, UInt32.toNat_add]
    change (c.val.toNat + 32) % 4294967296 = c.val.toNat + 32
    omega
  · have hSame : c.toLower = c := dif_neg h
    rw [if_neg (mt hLetter.mpr h), hSame]

/-- Hexadecimal digits are read in small and in capital letters. -/
theorem hexValue?_eq_some_iff {c : Char} {d : Nat} :
    Json.hexValue? c = some d ↔ d < 16 ∧ c.toLower = Nat.digitChar d := by
  have hDigit : ∀ d < 16, (Nat.digitChar d).toNat = if d < 10 then 48 + d else 87 + d := by decide
  have hValue : Json.hexValue? c =
      if 48 ≤ c.toNat ∧ c.toNat ≤ 57 then some (c.toNat - 48)
      else if 97 ≤ c.toNat ∧ c.toNat ≤ 102 then some (c.toNat - 87)
      else if 65 ≤ c.toNat ∧ c.toNat ≤ 70 then some (c.toNat - 55)
      else none := by
    simp only [Json.hexValue?, Char.le_def, UInt32.le_iff_toNat_le]
    change (if 48 ≤ c.toNat ∧ c.toNat ≤ 57 then some (c.toNat - 48)
      else if 97 ≤ c.toNat ∧ c.toNat ≤ 102 then some (c.toNat - 97 + 10)
      else if 65 ≤ c.toNat ∧ c.toNat ≤ 70 then some (c.toNat - 65 + 10)
      else none) = _
    grind
  have hSame (hd : d < 16) : c.toLower = Nat.digitChar d ↔
      (if 65 ≤ c.toNat ∧ c.toNat ≤ 90 then c.toNat + 32 else c.toNat) =
        if d < 10 then 48 + d else 87 + d := by
    rw [← toNat_toLower, ← hDigit d hd, Char.toNat_inj]
  rw [hValue]
  constructor
  · intro h
    have hd : d < 16 := by grind
    exact ⟨hd, (hSame hd).mpr (by grind)⟩
  · rintro ⟨hd, h⟩
    rw [hSame hd] at h
    grind

theorem isDigit_iff {c : Char} : Json.isDigit c = true ↔ ∃ d < 10, c = Nat.digitChar d := by
  constructor
  · intro h
    simp only [Json.isDigit, Bool.and_eq_true, decide_eq_true_eq, Char.le_def,
      UInt32.le_iff_toNat_le] at h
    change 48 ≤ c.toNat ∧ c.toNat ≤ 57 at h
    have hSmall : c.toNat - 48 < 10 := by omega
    refine ⟨c.toNat - 48, hSmall, Char.toNat_inj.mp ?_⟩
    rw [Nat.toNat_digitChar_of_lt_ten hSmall]
    omega
  · rintro ⟨d, hd, rfl⟩
    revert d
    decide

theorem all_isDigit_iff {cs : List Char} :
    cs.all Json.isDigit = true ↔
      ∃ digits : List Nat, (∀ d ∈ digits, d < 10) ∧ cs = digits.map Nat.digitChar := by
  constructor
  · intro h
    induction cs with
    | nil => exact ⟨[], List.forall_mem_nil _, rfl⟩
    | cons c rest ih =>
        rw [List.all_cons, Bool.and_eq_true] at h
        obtain ⟨d, hd, rfl⟩ := isDigit_iff.mp h.1
        obtain ⟨digits, hDigits, rfl⟩ := ih h.2
        exact ⟨d :: digits, List.forall_mem_cons.mpr ⟨hd, hDigits⟩, rfl⟩
  · rintro ⟨digits, hDigits, rfl⟩
    rw [List.all_map, List.all_eq_true]
    exact fun d hd => isDigit_iff.mpr ⟨d, hDigits d hd, rfl⟩

theorem digitsValue_map_digitChar {digits : List Nat} (h : ∀ d ∈ digits, d < 10) :
    Json.digitsValue (digits.map Nat.digitChar) = placeValue 10 digits := by
  have hValues : (digits.map Nat.digitChar).map (fun c => c.toNat - '0'.toNat) = digits := by
    rw [List.map_map]
    conv_rhs => rw [← List.map_id digits]
    apply List.map_congr_left
    intro d hd
    change (Nat.digitChar d).toNat - 48 = d
    rw [Nat.toNat_digitChar_of_lt_ten (h d hd)]
    omega
  rw [Json.digitsValue, hValues]
  rfl

/-- ASCII digits are the numerals of the number they denote. -/
theorem isNumeral_ten_iff {n : Nat} {cs : List Char} :
    IsNumeral 10 n cs ↔ cs ≠ [] ∧ cs.all Json.isDigit = true ∧ Json.digitsValue cs = n := by
  rw [isNumeral_iff (by decide), all_isDigit_iff]
  constructor
  · rintro ⟨digits, hNe, hDigits, rfl, rfl⟩
    exact ⟨by simpa using hNe, ⟨digits, hDigits, rfl⟩, digitsValue_map_digitChar hDigits⟩
  · rintro ⟨hNe, ⟨digits, hDigits, rfl⟩, rfl⟩
    exact ⟨digits, by simpa using hNe, hDigits, rfl, (digitsValue_map_digitChar hDigits).symm⟩

/-- An octet has one spelling. -/
theorem octet?_eq_some_iff {cs : List Char} {n : Nat} :
    octet? cs = some n ↔ n < 256 ∧ cs = Nat.toDigits 10 n := by
  constructor
  · intro h
    simp only [octet?, Option.ite_none_right_eq_some, Bool.and_eq_true, decide_eq_true_eq,
      Bool.or_eq_true, beq_iff_eq, bne_iff_ne, Option.some_inj] at h
    obtain ⟨⟨⟨⟨⟨hNe, hDigits⟩, -⟩, hFirst⟩, hSmall⟩, rfl⟩ := h
    have hNumeral : IsNumeral 10 (Json.digitsValue cs) cs :=
      isNumeral_ten_iff.mpr ⟨by simpa using hNe, hDigits, rfl⟩
    refine ⟨by omega, ?_⟩
    obtain ⟨zeros, hSpelled⟩ := hNumeral
    cases zeros with
    | zero => exact hSpelled
    | succ zeros =>
        rw [List.replicate_succ, List.cons_append] at hSpelled
        have hOnly : cs = ['0'] := hFirst.resolve_right fun hOther => hOther (by rw [hSpelled]; rfl)
        rw [hOnly]
        rfl
  · rintro ⟨hSmall, rfl⟩
    exact octet?_toDigits hSmall

/-- A number of bits may be written with leading zeros. -/
theorem bitCount?_eq_some_iff {width n : Nat} {cs : List Char} :
    bitCount? width cs = some n ↔
      n ≤ width ∧ cs.length ≤ Integer.maxDigits ∧ IsNumeral 10 n cs := by
  rw [isNumeral_ten_iff]
  simp only [bitCount?, Option.ite_none_right_eq_some, Bool.and_eq_true, decide_eq_true_eq,
    Option.some_inj, Bool.not_eq_true', List.isEmpty_eq_false_iff]
  constructor
  · rintro ⟨⟨⟨⟨hNe, hDigits⟩, hLength⟩, hSmall⟩, rfl⟩
    exact ⟨hSmall, hLength, hNe, hDigits, rfl⟩
  · rintro ⟨hSmall, hLength, hNe, hDigits, rfl⟩
    exact ⟨⟨⟨⟨hNe, hDigits⟩, hLength⟩, hSmall⟩, rfl⟩

theorem mapM_eq_some_iff {α β : Type} {f : α → Option β} {items : List α} {results : List β} :
    items.mapM f = some results ↔ List.Forall₂ (fun a b => f a = some b) items results := by
  induction items generalizing results with
  | nil => simp [eq_comm]
  | cons a rest ih =>
      simp only [List.mapM_cons, Option.bind_eq_bind, Option.bind_eq_some_iff, ih, Option.pure_def,
        Option.some_inj, List.forall₂_cons_left_iff]
      constructor
      · rintro ⟨b, hb, others, hOthers, rfl⟩
        exact ⟨b, others, hb, hOthers, rfl⟩
      · rintro ⟨b, others, hb, hOthers, rfl⟩
        exact ⟨b, hb, others, hOthers, rfl⟩

theorem mapM_hexValue?_eq_some_iff {cs : List Char} {digits : List Nat} :
    cs.mapM Json.hexValue? = some digits ↔
      (∀ d ∈ digits, d < 16) ∧ cs.map Char.toLower = digits.map Nat.digitChar := by
  induction cs generalizing digits with
  | nil => cases digits <;> simp
  | cons c rest ih =>
      cases digits with
      | nil => simp [Option.bind_eq_some_iff]
      | cons d digits =>
          simp only [List.mapM_cons, Option.bind_eq_bind, Option.bind_eq_some_iff, ih,
            hexValue?_eq_some_iff, Option.pure_def, Option.some_inj, List.cons.injEq,
            List.forall_mem_cons, List.map_cons]
          grind

theorem group?_eq_some_iff {cs : List Char} {g : Nat} : group? cs = some g ↔ IsGroup g cs := by
  rw [IsGroup, isNumeral_iff (by decide)]
  simp only [group?, Option.ite_none_left_eq_some, Bool.or_eq_true, decide_eq_true_eq, not_or,
    not_lt, Option.map_eq_some_iff, mapM_hexValue?_eq_some_iff]
  constructor
  · rintro ⟨⟨hNe, hLength⟩, digits, ⟨hDigits, hSpelled⟩, rfl⟩
    refine ⟨hLength, digits, ?_, hDigits, hSpelled, rfl⟩
    rintro rfl
    simp_all
  · rintro ⟨hLength, digits, hNe, hDigits, hSpelled, rfl⟩
    refine ⟨⟨?_, hLength⟩, digits, ⟨hDigits, hSpelled⟩, rfl⟩
    rw [List.isEmpty_iff]
    rintro rfl
    exact hNe (List.map_eq_nil_iff.mp hSpelled.symm)

end Reading

section Dotted

theorem toList_dottedText (number : Nat) :
    (dottedText number).toList = Nat.toDigits 10 (number / Nat.pow 2 24 % 256) ++ '.' ::
      (Nat.toDigits 10 (number / Nat.pow 2 16 % 256) ++ '.' ::
        (Nat.toDigits 10 (number / Nat.pow 2 8 % 256) ++ '.' ::
          Nat.toDigits 10 (number % 256))) := by
  simp [dottedText]

/-- Nothing but digits and points stands in a dotted address. -/
theorem notMem_dottedText {c : Char} (hDigit : Json.hexValue? c = none) (hPoint : c ≠ '.')
    (number : Nat) : c ∉ (dottedText number).toList := by
  have hNumeral (n : Nat) : c ∉ Nat.toDigits 10 n := by
    intro hIn
    obtain ⟨d, hd, rfl⟩ := isDigit_iff.mp (isDigit_of_mem_toDigits hIn)
    rw [hexValue?_digitChar (by omega)] at hDigit
    cases hDigit
  simp only [toList_dottedText, List.mem_append, List.mem_cons, not_or]
  exact ⟨hNumeral _, hPoint, hNumeral _, hPoint, hNumeral _, hPoint, hNumeral _⟩

/-- A dotted address has one spelling. -/
theorem dotted?_eq_some_iff {cs : List Char} {n : Nat} :
    dotted? cs = some n ↔ n < Nat.pow 2 32 ∧ cs = (dottedText n).toList := by
  constructor
  · intro h
    unfold dotted? at h
    split at h
    case h_2 => cases h
    case h_1 a b c d hParts =>
      have hOctets := mapM_eq_some_iff.mp hParts
      simp only [List.forall₂_cons_right_iff, List.forall₂_nil_right_iff, octet?_eq_some_iff]
        at hOctets
      obtain ⟨-, -, ⟨hA, rfl⟩, ⟨-, -, ⟨hB, rfl⟩, ⟨-, -, ⟨hC, rfl⟩, ⟨-, -, ⟨hD, rfl⟩, rfl, rfl⟩,
        rfl⟩, rfl⟩, hSplit⟩ := hOctets
      obtain ⟨afterA, rfl, -, hSplit⟩ := exists_of_splitAt_eq_cons (List.cons_ne_nil _ _) hSplit
      obtain ⟨afterB, rfl, -, hSplit⟩ := exists_of_splitAt_eq_cons (List.cons_ne_nil _ _) hSplit
      obtain ⟨afterC, rfl, -, hSplit⟩ := exists_of_splitAt_eq_cons (List.cons_ne_nil _ _) hSplit
      obtain ⟨rfl, -⟩ := splitAt_eq_singleton_iff.mp hSplit
      obtain rfl := Option.some_inj.mp h
      have hFirst : (((a * 256 + b) * 256 + c) * 256 + d) / Nat.pow 2 24 % 256 = a := by
        change (((a * 256 + b) * 256 + c) * 256 + d) / 16777216 % 256 = a
        omega
      have hSecond : (((a * 256 + b) * 256 + c) * 256 + d) / Nat.pow 2 16 % 256 = b := by
        change (((a * 256 + b) * 256 + c) * 256 + d) / 65536 % 256 = b
        omega
      have hThird : (((a * 256 + b) * 256 + c) * 256 + d) / Nat.pow 2 8 % 256 = c := by
        change (((a * 256 + b) * 256 + c) * 256 + d) / 256 % 256 = c
        omega
      have hLast : (((a * 256 + b) * 256 + c) * 256 + d) % 256 = d := by omega
      refine ⟨?_, by rw [toList_dottedText, hFirst, hSecond, hThird, hLast]⟩
      change ((a * 256 + b) * 256 + c) * 256 + d < 4294967296
      omega
  · rintro ⟨hSmall, rfl⟩
    exact dotted?_dottedText hSmall

end Dotted

section Masks

/-- What is looked for among different values is found where it stands. -/
theorem find?_range_beq_iff {f : Nat → Nat} {count n i : Nat}
    (hInj : ∀ j < count, ∀ k < count, f j = f k → j = k) :
    ((List.range count).find? fun j => n == f j) = some i ↔ i < count ∧ n = f i := by
  rw [List.find?_range_eq_some]
  simp only [beq_iff_eq, List.mem_range, Bool.not_eq_true', beq_eq_false_iff_ne]
  constructor
  · rintro ⟨hFound, hRange, -⟩
    exact ⟨hRange, hFound⟩
  · rintro ⟨hRange, rfl⟩
    refine ⟨rfl, hRange, fun j hj hEq => ?_⟩
    have hSame := hInj i hRange j (by omega) hEq
    omega

theorem hostMask_add_one (length : Nat) : hostMask length + 1 = 2 ^ (32 - length) :=
  Nat.sub_add_cancel (Nat.two_pow_pos _)

theorem netMask_add (length : Nat) : netMask length + 2 ^ (32 - length) = 2 ^ 32 :=
  Nat.sub_add_cancel (Nat.pow_le_pow_right (by decide) (Nat.sub_le 32 length))

theorem masks_lt (length : Nat) :
    netMask length < Nat.pow 2 32 ∧ hostMask length < Nat.pow 2 32 := by
  have hFixed := netMask_add length
  have hFree := hostMask_add_one length
  change _ < 2 ^ 32 ∧ _ < 2 ^ 32
  omega

theorem eq_of_two_pow_eq {j k : Nat} (hj : j < 33) (hk : k < 33)
    (h : 2 ^ (32 - j) = 2 ^ (32 - k)) : j = k := by
  have hExponent : 32 - j = 32 - k := Nat.pow_right_injective (Nat.le_refl 2) h
  omega

theorem netMask_inj (j : Nat) (hj : j < 33) (k : Nat) (hk : k < 33)
    (h : netMask j = netMask k) : j = k := by
  have hj' := netMask_add j
  rw [h, ← netMask_add k] at hj'
  exact eq_of_two_pow_eq hj hk (Nat.add_left_cancel hj')

theorem hostMask_inj (j : Nat) (hj : j < 33) (k : Nat) (hk : k < 33)
    (h : hostMask j = hostMask k) : j = k := by
  apply eq_of_two_pow_eq hj hk
  rw [← hostMask_add_one, ← hostMask_add_one, h]

/-- Only masks of no bits and of all bits are of both kinds. The sum of two powers is odd only if
one of them is the first. -/
theorem netMask_eq_hostMask {j k : Nat} (hj : j < 33) (hk : k < 33)
    (h : netMask j = hostMask k) : k = 0 ∧ j = 32 ∨ k = 32 ∧ j = 0 := by
  have hSum : 2 ^ (32 - k) + 2 ^ (32 - j) = 2 ^ 32 + 1 := by
    have hFixed := netMask_add j
    have hFree := hostMask_add_one k
    omega
  obtain hAll | hSome := Nat.eq_zero_or_pos (32 - j)
  · refine .inl ⟨eq_of_two_pow_eq hk (by decide) ?_, by omega⟩
    rw [hAll] at hSum
    exact Nat.add_right_cancel hSum
  · obtain hNone | hOther := Nat.eq_zero_or_pos (32 - k)
    · refine .inr ⟨by omega, eq_of_two_pow_eq hj (by decide) ?_⟩
      rw [hNone, Nat.add_comm] at hSum
      exact Nat.add_right_cancel hSum
    · have hFirst := Nat.two_pow_pred_add_two_pow_pred hSome
      have hSecond := Nat.two_pow_pred_add_two_pow_pred hOther
      omega

/-- The number of fixed bits is told by a mask of these bits or, if there are both kinds, of the
others. -/
theorem maskLength?_eq_some_iff {mask length : Nat} :
    maskLength? mask = some length ↔
      length ≤ 32 ∧
        (mask = netMask length ∨ 0 < length ∧ length < 32 ∧ mask = hostMask length) := by
  have hNet (n : Nat) := find?_range_beq_iff (n := mask) (i := n) netMask_inj
  have hHost (n : Nat) := find?_range_beq_iff (n := mask) (i := n) hostMask_inj
  change ((List.range 33).find? fun n => mask == netMask n).or
    ((List.range 33).find? fun n => mask == hostMask n) = some length ↔ _
  by_cases hFixed : ∃ n < 33, mask = netMask n
  · obtain ⟨n, hn, hMask⟩ := hFixed
    rw [(hNet n).mpr ⟨hn, hMask⟩, Option.some_or, Option.some_inj]
    constructor
    · rintro rfl
      exact ⟨by omega, .inl hMask⟩
    · rintro ⟨hLength, hEq | ⟨hPos, hLess, hEq⟩⟩
      · exact netMask_inj n hn length (by omega) (hMask.symm.trans hEq)
      · have hBoth := netMask_eq_hostMask hn (by omega) (hMask.symm.trans hEq)
        omega
  · have hNone : ((List.range 33).find? fun n => mask == netMask n) = none := by
      rw [Option.eq_none_iff_forall_ne_some]
      exact fun n hFound => hFixed ⟨n, (hNet n).mp hFound⟩
    rw [hNone, Option.none_or, hHost]
    constructor
    · rintro ⟨hLength, rfl⟩
      refine ⟨by omega, .inr ⟨?_, ?_, rfl⟩⟩
      · refine Nat.pos_of_ne_zero fun hZero => hFixed ⟨32, by decide, ?_⟩
        rw [hZero]
        decide
      · refine Nat.lt_of_le_of_ne (by omega) fun hAll => hFixed ⟨0, by decide, ?_⟩
        rw [hAll]
        decide
    · rintro ⟨hLength, hEq | ⟨-, -, hEq⟩⟩
      · exact absurd ⟨length, by omega, hEq⟩ hFixed
      · exact ⟨by omega, hEq⟩

end Masks

section Lengths

variable {length : Nat} {cs : List Char}

theorem isLength_v6_iff :
    bitCount? 128 cs = some length ↔ length ≤ 128 ∧ IsLength .v6 length cs := by
  rw [bitCount?_eq_some_iff]
  constructor
  · rintro ⟨hLength, hDigits, h⟩
    exact ⟨hLength, .bits hDigits h⟩
  · rintro ⟨hLength, hSpelled⟩
    cases hSpelled with
    | bits hDigits h => exact ⟨hLength, hDigits, h⟩
    | fixed hFamily => cases hFamily
    | free hFamily => cases hFamily

theorem point_mem_dottedText (number : Nat) : '.' ∈ (dottedText number).toList := by
  rw [toList_dottedText]
  simp

/-- A dotted mask is no number of bits. -/
theorem bitCount?_dottedText (width number : Nat) :
    bitCount? width (dottedText number).toList = none := by
  rw [Option.eq_none_iff_forall_ne_some]
  intro n h
  obtain ⟨-, -, hNumeral⟩ := bitCount?_eq_some_iff.mp h
  have hDigits := (isNumeral_ten_iff.mp hNumeral).2.1
  rw [List.all_eq_true] at hDigits
  exact absurd (hDigits '.' (point_mem_dottedText number)) (by decide)

theorem isLength_v4_iff :
    (bitCount? 32 cs).or ((dotted? cs).bind maskLength?) = some length ↔
      length ≤ 32 ∧ IsLength .v4 length cs := by
  constructor
  · intro h
    rcases Option.or_eq_some_iff.mp h with hBits | ⟨-, hDotted⟩
    · obtain ⟨hLength, hDigits, hNumeral⟩ := bitCount?_eq_some_iff.mp hBits
      exact ⟨hLength, .bits hDigits hNumeral⟩
    · obtain ⟨mask, hMask, hFound⟩ := Option.bind_eq_some_iff.mp hDotted
      obtain ⟨-, rfl⟩ := dotted?_eq_some_iff.mp hMask
      obtain ⟨hLength, hFixed | ⟨hSome, hNotAll, hFree⟩⟩ := maskLength?_eq_some_iff.mp hFound
      · rw [hFixed]
        exact ⟨hLength, .fixed rfl⟩
      · rw [hFree]
        exact ⟨hLength, .free rfl hSome hNotAll⟩
  · rintro ⟨hLength, h⟩
    have hMask {mask : Nat} (hSmall : mask < Nat.pow 2 32)
        (hFound : maskLength? mask = some length) :
        (bitCount? 32 (dottedText mask).toList).or
          ((dotted? (dottedText mask).toList).bind maskLength?) = some length := by
      rw [bitCount?_dottedText, Option.none_or, dotted?_dottedText hSmall, Option.bind_some, hFound]
    obtain ⟨hNetMask, hHostMask⟩ := masks_lt length
    cases h with
    | bits hDigits hNumeral =>
        rw [bitCount?_eq_some_iff.mpr ⟨hLength, hDigits, hNumeral⟩, Option.some_or]
    | fixed => exact hMask hNetMask (maskLength?_eq_some_iff.mpr ⟨hLength, .inl rfl⟩)
    | free _ hSome hNotAll =>
        exact hMask hHostMask
          (maskLength?_eq_some_iff.mpr ⟨hLength, .inr ⟨hSome, hNotAll, rfl⟩⟩)

end Lengths


end Tailnet
