import Mathlib.Data.List.Forall2
import Mathlib.Data.List.Induction
import VlanBridge.Net.EtherType
import VlanBridge.Net.Vid
import VlanBridge.Proofs.AddressTexts
/-!
# Spellings

An address, a VLAN and an ether type may be written in more ways than they are shown: a numeral may have a
plus sign, capital letters and zeros in front. The spellings are told here without a reader. A text is read
just if it is one of them, and as what it spells; what is shown of a value is a spelling of it.
-/

namespace VlanBridge.Text.Number

variable {radix : Nat}

/-! ### Numerals -/

/-- A digit and its value; a letter has the same in either case. -/
def DigitOf (radix : Nat) (c : Char) (d : Nat) : Prop :=
  d < radix ∧ (c = digitChar d ∨ c = (digitChar d).toUpper)

/-- One digit or more, and the number that they stand for. -/
inductive Digits (radix : Nat) : List Char → Nat → Prop
  | one {c : Char} {d : Nat} : DigitOf radix c d → Digits radix [c] d
  | more {ds : List Char} {n : Nat} {c : Char} {d : Nat} :
    Digits radix ds n → DigitOf radix c d → Digits radix (ds ++ [c]) (n * radix + d)

/-- Digits, with a plus sign in front or without one. -/
inductive Numeral (radix : Nat) : List Char → Nat → Prop
  | bare {cs : List Char} {n : Nat} : Digits radix cs n → Numeral radix cs n
  | plus {cs : List Char} {n : Nat} : Digits radix cs n → Numeral radix ('+' :: cs) n

/-- What can be seen of each plain character. -/
theorem forall_plain {P : Char → Prop} (h : ∀ n < 128, P (Char.ofNat n)) {c : Char}
    (hc : c.toNat < 128) : P c :=
  Char.ofNat_toNat c ▸ h c.toNat hc

theorem digitValue_of_eq {c : Char} {d : Nat} (h36 : d < 36)
    (h : c = digitChar d ∨ c = (digitChar d).toUpper) : digitValue c = some d := by
  have hlower := digitValue_digitChar ⟨d, h36⟩
  have hupper : ∀ d : Fin 36, digitValue (digitChar d.val).toUpper = some d.val := by decide
  rcases h with rfl | rfl
  · exact hlower
  · exact hupper ⟨d, h36⟩

theorem toNat_lt_of_digitValue {c : Char} {d : Nat} (h : digitValue c = some d) : c.toNat < 128 := by
  have hbelow : ∀ last : Char, c ≤ last → last.toNat < 128 → c.toNat < 128 :=
    fun _ hle hlt => Nat.lt_of_le_of_lt hle hlt
  unfold digitValue at h
  split at h
  · exact hbelow '9' (And.right ‹_›) (by decide)
  · split at h
    · exact hbelow 'z' (And.right ‹_›) (by decide)
    · split at h
      · exact hbelow 'Z' (And.right ‹_›) (by decide)
      · cases h

theorem eq_digitChar_of_digitValue {c : Char} {d : Nat} (h : digitValue c = some d) :
    c = digitChar d ∨ c = (digitChar d).toUpper := by
  have hplain : ∀ d ∈ digitValue c, c = digitChar d ∨ c = (digitChar d).toUpper :=
    forall_plain (P := fun c => ∀ d ∈ digitValue c, c = digitChar d ∨ c = (digitChar d).toUpper)
      (by decide) (toNat_lt_of_digitValue h)
  exact hplain d h

theorem digitOf_iff (h36 : radix ≤ 36) {c : Char} {d : Nat} :
    DigitOf radix c d ↔ digitValue c = some d ∧ d < radix := by
  constructor
  · rintro ⟨hlt, hc⟩
    exact ⟨digitValue_of_eq (by omega) hc, hlt⟩
  · rintro ⟨hvalue, hlt⟩
    exact ⟨hlt, eq_digitChar_of_digitValue hvalue⟩

theorem readDigits_singleton (h36 : radix ≤ 36) {acc n : Nat} {c : Char} :
    readDigits radix acc [c] = some n ↔ ∃ d, DigitOf radix c d ∧ n = acc * radix + d := by
  simp only [readDigits, digitOf_iff h36]
  cases digitValue c with
  | none => simp
  | some d =>
    by_cases hlt : d < radix
    · simp [hlt, eq_comm]
    · simp [hlt]

theorem parse?_eq_some_iff (h36 : radix ≤ 36) {cs : List Char} {n : Nat} :
    parse? radix cs = some n ↔ Digits radix cs n := by
  have hsnoc : ∀ ds c, parse? radix (ds ++ [c]) =
      (readDigits radix 0 ds).bind fun m => readDigits radix m [c] := by
    intro ds c
    rw [parse?, if_neg (by simp), readDigits_append]
  constructor
  · intro h
    -- the last digit is the one that counts once
    induction cs using List.reverseRecOn generalizing n with
    | nil => simp [parse?] at h
    | append_singleton ds c ih =>
      rw [hsnoc] at h
      obtain ⟨m, hm, hlast⟩ := Option.bind_eq_some_iff.1 h
      obtain ⟨d, hd, rfl⟩ := (readDigits_singleton h36).1 hlast
      cases ds with
      | nil =>
        cases hm
        rw [List.nil_append, Nat.zero_mul, Nat.zero_add]
        exact .one hd
      | cons c' ds => exact .more (ih hm) hd
  · intro h
    induction h with
    | @one c d hd => exact (readDigits_singleton h36).2 ⟨d, hd, by rw [Nat.zero_mul, Nat.zero_add]⟩
    | @more ds m c d _ hd ih =>
      have hds : readDigits radix 0 ds = some m := by
        unfold parse? at ih
        split at ih
        · cases ih
        · exact ih
      rw [hsnoc, hds, Option.bind_some]
      exact (readDigits_singleton h36).2 ⟨d, hd, rfl⟩

theorem Digits.digitOf_of_mem {cs : List Char} {n : Nat} (h : Digits radix cs n) :
    ∀ c ∈ cs, ∃ d, DigitOf radix c d := by
  induction h with
  | @one c d hd =>
    intro c hc
    cases List.mem_singleton.1 hc
    exact ⟨d, hd⟩
  | @more ds n c d _ hd ih =>
    intro c' hc
    rcases List.mem_append.1 hc with hc | hc
    · exact ih c' hc
    · cases List.mem_singleton.1 hc
      exact ⟨d, hd⟩

theorem not_digits_plus (h36 : radix ≤ 36) {cs : List Char} {n : Nat} :
    ¬ Digits radix ('+' :: cs) n := by
  intro h
  obtain ⟨d, hd⟩ := h.digitOf_of_mem '+' List.mem_cons_self
  have hvalue := ((digitOf_iff h36).1 hd).1
  rw [show digitValue '+' = none by decide] at hvalue
  cases hvalue

theorem Numeral.isDigit_of_mem (h36 : radix ≤ 36) {cs : List Char} {n : Nat}
    (h : Numeral radix cs n) : ∀ c ∈ cs, c = '+' ∨ IsDigit radix c := by
  have hdigits : ∀ ds, Digits radix ds n → ∀ c ∈ ds, IsDigit radix c := by
    intro ds hds c hc
    obtain ⟨d, hd⟩ := hds.digitOf_of_mem c hc
    obtain ⟨hvalue, hlt⟩ := (digitOf_iff h36).1 hd
    simp [IsDigit, hvalue, hlt]
  intro c hc
  cases h with
  | bare h => exact Or.inr (hdigits cs h c hc)
  | plus h => exact (List.mem_cons.1 hc).imp_right (hdigits _ h c)

theorem Numeral.not_mem (h36 : radix ≤ 36) {cs : List Char} {n : Nat} (h : Numeral radix cs n) {c : Char}
    (hplus : c ≠ '+') (hdigit : ¬ IsDigit radix c) : c ∉ cs :=
  fun hc => (h.isDigit_of_mem h36 c hc).elim hplus hdigit

/-- What stands behind a plus sign, if there is one. -/
def unsigned (cs : List Char) : List Char :=
  match cs with
  | '+' :: rest => rest
  | _ => cs

theorem parseSigned?_eq_filter (bound : Nat) (cs : List Char) :
    parseSigned? radix bound cs = (parse? radix (unsigned cs)).filter (· ≤ bound) := by
  unfold parseSigned?
  dsimp only
  split
  · rename_i n hn
    have hread : parse? radix (unsigned cs) = some n := hn
    rw [hread, Option.filter_some]
    simp only [decide_eq_true_eq]
  · rename_i hn
    have hread : parse? radix (unsigned cs) = none := hn
    rw [hread]
    rfl

theorem digits_unsigned_iff (h36 : radix ≤ 36) {cs : List Char} {n : Nat} :
    Digits radix (unsigned cs) n ↔ Numeral radix cs n := by
  unfold unsigned
  split
  · constructor
    · exact .plus
    · rintro (h | h)
      · exact absurd h (not_digits_plus h36)
      · exact h
  · rename_i hbare
    constructor
    · exact .bare
    · rintro (h | h)
      · exact h
      · exact absurd rfl (hbare _)

/-- What is read is a numeral for a number within the bound, however many zeros it begins with. -/
theorem parseSigned?_eq_some_iff (h36 : radix ≤ 36) {bound : Nat} {cs : List Char} {n : Nat} :
    parseSigned? radix bound cs = some n ↔ Numeral radix cs n ∧ n ≤ bound := by
  rw [parseSigned?_eq_filter, Option.filter_eq_some_iff, parse?_eq_some_iff h36,
    digits_unsigned_iff h36, decide_eq_true_iff]

/-! ### Letters of either case -/

theorem toLower_of_le {c : Char} (h : 128 ≤ c.toNat) : c.toLower = c := by
  unfold Char.toLower
  refine dif_neg fun hcapital => ?_
  have hle : c.toNat ≤ 'Z'.toNat := hcapital.2
  have hlast : 'Z'.toNat < 128 := by decide
  omega

theorem toUpper_of_le {c : Char} (h : 128 ≤ c.toNat) : c.toUpper = c := by
  unfold Char.toUpper
  refine dif_neg fun hsmall => ?_
  have hle : c.toNat ≤ 'z'.toNat := hsmall.2
  have hlast : 'z'.toNat < 128 := by decide
  omega

theorem digitValue_toLower (c : Char) : digitValue c.toLower = digitValue c := by
  rcases Nat.lt_or_ge c.toNat 128 with hlt | hge
  · exact forall_plain (P := fun c => digitValue c.toLower = digitValue c) (by decide) hlt
  · rw [toLower_of_le hge]

theorem digitValue_toUpper (c : Char) : digitValue c.toUpper = digitValue c := by
  rcases Nat.lt_or_ge c.toNat 128 with hlt | hge
  · exact forall_plain (P := fun c => digitValue c.toUpper = digitValue c) (by decide) hlt
  · rw [toUpper_of_le hge]

theorem unsigned_map {f : Char → Char} (hplus : ∀ c, f c = '+' ↔ c = '+') (cs : List Char) :
    unsigned (cs.map f) = (unsigned cs).map f := by
  cases cs with
  | nil => rfl
  | cons c cs =>
    by_cases hc : c = '+'
    · rw [hc, List.map_cons, (hplus '+').2 rfl]
      rfl
    · have hfc : f c ≠ '+' := mt (hplus c).1 hc
      simp [unsigned, hc, hfc]

section Respelt

/-! Characters may be put for others of the same value. -/

variable {f : Char → Char} (hf : ∀ c, digitValue (f c) = digitValue c)
include hf

theorem parse?_map (cs : List Char) : parse? radix (cs.map f) = parse? radix cs := by
  have hread : ∀ acc, readDigits radix acc (cs.map f) = readDigits radix acc cs := by
    induction cs with
    | nil => exact fun _ => rfl
    | cons c cs ih =>
      intro acc
      simp only [List.map_cons, readDigits, hf, ih]
  unfold parse?
  rw [hread, List.isEmpty_map]

theorem isDigit_map {c : Char} : IsDigit radix (f c) ↔ IsDigit radix c := by
  simp only [IsDigit, hf]

theorem numeral_map (h36 : radix ≤ 36) (hplus : ∀ c, f c = '+' ↔ c = '+') {cs : List Char} {n : Nat} :
    Numeral radix (cs.map f) n ↔ Numeral radix cs n := by
  rw [← digits_unsigned_iff h36, unsigned_map hplus, ← parse?_eq_some_iff h36, parse?_map hf,
    parse?_eq_some_iff h36, digits_unsigned_iff h36]

end Respelt

theorem toLower_eq_iff {c d : Char} (hd : d.toNat < 65) : c.toLower = d ↔ c = d := by
  rcases Nat.lt_or_ge c.toNat 128 with hlt | hge
  · have hplain : c = c.toLower ∨ 65 ≤ c.toLower.toNat ∧ 65 ≤ c.toNat :=
      forall_plain (P := fun c => c = c.toLower ∨ 65 ≤ c.toLower.toNat ∧ 65 ≤ c.toNat)
        (by decide) hlt
    rcases hplain with hsame | ⟨hlower, hself⟩
    · rw [← hsame]
    · constructor
      · rintro rfl
        omega
      · rintro rfl
        omega
  · rw [toLower_of_le hge]

theorem numeral_map_toLower (h36 : radix ≤ 36) {cs : List Char} {n : Nat} :
    Numeral radix (cs.map Char.toLower) n ↔ Numeral radix cs n :=
  numeral_map digitValue_toLower h36 fun _ => toLower_eq_iff (by decide)

end VlanBridge.Text.Number

namespace VlanBridge.Text

theorem splitAt_eq_splitOn (sep : Char) (cs : List Char) : splitAt sep cs = cs.splitOn sep := by
  induction cs with
  | nil => rfl
  | cons c cs ih =>
    have hstep : (c :: cs).splitOn sep =
        if (c == sep) = true then [] :: cs.splitOn sep
        else (cs.splitOn sep).modifyHead (List.cons c) :=
      List.splitOnP_cons_eq_if_modifyHead c cs
    rw [hstep, ← ih, splitAt]
    by_cases h : c = sep
    · rw [if_pos h, if_pos (beq_iff_eq.2 h)]
    · rw [if_neg h, if_neg (mt beq_iff_eq.1 h)]
      cases hs : splitAt sep cs with
      | nil => exact absurd hs (splitAt_ne_nil sep cs)
      | cons part parts => rfl

theorem map_joinWith (f : Char → Char) (sep : Char) (parts : List (List Char)) :
    (joinWith sep parts).map f = joinWith (f sep) (parts.map (List.map f)) := by
  induction parts with
  | nil => rfl
  | cons part parts ih =>
    cases parts with
    | nil => rfl
    | cons next parts =>
      have hjoin : ∀ (p q : List Char) (rest : List (List Char)) (c : Char),
          joinWith c (p :: q :: rest) = p ++ c :: joinWith c (q :: rest) := fun _ _ _ _ => rfl
      rw [hjoin, List.map_append, List.map_cons, ih]
      exact (hjoin _ _ _ _).symm

theorem mem_joinWith {sep c : Char} {parts : List (List Char)} (h : c ∈ joinWith sep parts) :
    c = sep ∨ ∃ part ∈ parts, c ∈ part := by
  induction parts with
  | nil => cases h
  | cons part parts ih =>
    cases parts with
    | nil => exact Or.inr ⟨part, List.mem_cons_self, h⟩
    | cons next parts =>
      rcases List.mem_append.1 h with h | h
      · exact Or.inr ⟨part, List.mem_cons_self, h⟩
      · rcases List.mem_cons.1 h with rfl | h
        · exact Or.inl rfl
        · exact (ih h).imp_right fun ⟨p, hp, hc⟩ => ⟨p, List.mem_cons_of_mem _ hp, hc⟩

end VlanBridge.Text

namespace VlanBridge.Net

open VlanBridge.Text VlanBridge.Text.Number

/-! ### MAC addresses -/

namespace Mac

/-- A text spells an address when its parts between colons, or between hyphens if it has no colon, are
numerals for the octets. -/
def Spells (s : String) (m : Mac) : Prop :=
  List.Forall₂ (fun part (o : UInt8) => Numeral 16 part o.toNat)
    (s.toList.splitOn (if ':' ∈ s.toList then ':' else '-')) m.octets

theorem octet?_eq_some_iff {part : List Char} {o : UInt8} :
    octet? part = some o ↔ Numeral 16 part o.toNat := by
  unfold octet?
  rw [Option.map_eq_some_iff]
  constructor
  · rintro ⟨n, hn, rfl⟩
    obtain ⟨hnumeral, hle⟩ := (parseSigned?_eq_some_iff (by decide)).1 hn
    rwa [UInt8.toNat_ofNat', Nat.mod_eq_of_lt (Nat.lt_succ_of_le hle)]
  · intro h
    have hle : o.toNat ≤ 255 := Nat.le_of_lt_succ o.toNat_lt
    exact ⟨_, (parseSigned?_eq_some_iff (by decide)).2 ⟨h, hle⟩, UInt8.ofNat_toNat⟩

theorem ofChars?_eq_some_iff {cs : List Char} {m : Mac} :
    ofChars? cs = some m ↔
      List.Forall₂ (fun part o => octet? part = some o)
        (splitAt (if ':' ∈ cs then ':' else '-') cs) m.octets := by
  unfold ofChars?
  generalize splitAt (if ':' ∈ cs then ':' else '-') cs = parts
  constructor
  · intro h
    split at h
    · split at h
      · cases h
        exact .cons ‹_› (.cons ‹_› (.cons ‹_› (.cons ‹_› (.cons ‹_› (.cons ‹_› .nil)))))
      · cases h
    · cases h
  · rintro (- | ⟨ha, - | ⟨hb, - | ⟨hc, - | ⟨hd, - | ⟨he, - | ⟨hf, ⟨⟩⟩⟩⟩⟩⟩⟩)
    simp only [ha, hb, hc, hd, he, hf]

theorem parse_eq_ok_iff {s : String} {m : Mac} : parse s = .ok m ↔ Spells s m := by
  have hread : ofChars? s.toList = some m ↔ Spells s m := by
    rw [ofChars?_eq_some_iff, splitAt_eq_splitOn]
    simp only [octet?_eq_some_iff, Spells]
  unfold parse
  rw [← hread]
  cases ofChars? s.toList <;> simp

theorem parse_eq_error_iff {s : String} : parse s = .error (.mac s) ↔ ∀ m, ¬ Spells s m := by
  simp only [← parse_eq_ok_iff]
  unfold parse
  cases ofChars? s.toList <;> simp

section Respelt

/-! An address may be shown with other digits of the same values, and with hyphens for the colons. -/

variable {f : Char → Char} (hf : ∀ c, digitValue (f c) = digitValue c)
include hf

theorem isDigit_of_mem_map_padded (o : UInt8) : ∀ c ∈ (padded 16 2 o.toNat).map f, IsDigit 16 c := by
  intro c hc
  obtain ⟨d, hd, rfl⟩ := List.mem_map.1 hc
  exact (isDigit_map hf).2 (isDigit_of_mem_padded (by decide) (by decide) d hd)

theorem octet?_map_padded (o : UInt8) : octet? ((padded 16 2 o.toNat).map f) = some o := by
  have hread : parse? 16 ((padded 16 2 o.toNat).map f) = some o.toNat := by
    rw [parse?_map hf, parse?_padded (by decide) (by decide)]
  rw [octet?, parseSigned?_of_digits (isDigit_of_mem_map_padded hf o) hread
    (Nat.le_of_lt_succ o.toNat_lt)]
  exact congrArg some UInt8.ofNat_toNat

theorem splitAt_map_chars (hsep : f ':' = ':' ∨ f ':' = '-') (m : Mac) :
    splitAt (if ':' ∈ m.chars.map f then ':' else '-') (m.chars.map f) =
      m.octets.map fun o => (padded 16 2 o.toNat).map f := by
  have hchars : m.chars.map f =
      joinWith (f ':') (m.octets.map fun o => (padded 16 2 o.toNat).map f) := by
    rw [chars, map_joinWith, List.map_map]
    rfl
  have hnot : ∀ c, ¬ IsDigit 16 c →
      ∀ part ∈ m.octets.map (fun o => (padded 16 2 o.toNat).map f), c ∉ part := by
    intro c hc part hpart hmem
    obtain ⟨o, -, rfl⟩ := List.mem_map.1 hpart
    exact hc (isDigit_of_mem_map_padded hf o c hmem)
  have hne : m.octets.map (fun o => (padded 16 2 o.toNat).map f) ≠ [] := List.cons_ne_nil _ _
  rw [hchars]
  rcases hsep with hcolon | hhyphen
  · have hmem : ':' ∈ joinWith ':' (m.octets.map fun o => (padded 16 2 o.toNat).map f) :=
      List.mem_append_right _ List.mem_cons_self
    rw [hcolon, if_pos hmem]
    exact splitAt_joinWith hne (hnot ':' (by decide))
  · have hmem : ':' ∉ joinWith '-' (m.octets.map fun o => (padded 16 2 o.toNat).map f) := by
      intro h
      obtain h | ⟨part, hpart, h⟩ := mem_joinWith h
      · exact absurd h (by decide)
      · exact hnot ':' (by decide) part hpart h
    rw [hhyphen, if_neg hmem]
    exact splitAt_joinWith hne (hnot '-' (by decide))

theorem parse_map_text (hsep : f ':' = ':' ∨ f ':' = '-') (m : Mac) :
    parse (m.text.map f) = .ok m := by
  have hread : ofChars? (m.chars.map f) = some m := by
    rw [ofChars?_eq_some_iff, splitAt_map_chars hf hsep, List.forall₂_map_left_iff,
      List.forall₂_same]
    exact fun o _ => octet?_map_padded hf o
  rw [parse, String.toList_map, text, String.toList_ofList, hread]

end Respelt

end Mac

/-! ### VLAN identifiers -/

namespace Vid

/-- A text spells a number when it is a decimal numeral for it, behind the word `vlan` in letters of either
case or without it. -/
def Spells (s : String) (n : Nat) : Prop :=
  Numeral 10 s.toList n ∨ ∃ word rest, s.toList = word ++ rest ∧
    word.map Char.toLower = "vlan".toList ∧ Numeral 10 rest n

theorem spells_iff {s : String} {n : Nat} : Spells s n ↔ Numeral 10 (dropWord s.toList) n := by
  unfold Spells dropWord
  constructor
  · rintro (h | ⟨word, rest, hs, hword, h⟩)
    · -- the word would begin a numeral with a letter
      have hletter : 'v' ∉ s.toList.map Char.toLower :=
        ((numeral_map_toLower (by decide)).2 h).not_mem (by decide) (by decide) (by decide)
      rw [if_neg fun hword => hletter ?_]
      · exact h
      · have hmem : 'v' ∈ (s.toList.take 4).map Char.toLower := by
          rw [hword]
          exact List.mem_cons_self
        exact List.map_subset _ (List.take_subset 4 _) hmem
    · have hlength : word.length = 4 := by
        have hcount := congrArg List.length hword
        rwa [List.length_map] at hcount
      have hcut : word.map Char.toLower = ['v', 'l', 'a', 'n'] := hword
      rw [hs, ← hlength, List.take_left, List.drop_left, if_pos hcut]
      exact h
  · intro h
    split at h
    · exact Or.inr ⟨_, _, (List.take_append_drop 4 s.toList).symm, ‹_›, h⟩
    · exact Or.inl h

/-! A machine looks for the word in the first four octets of a text, which need not be four characters. -/

def octets (cs : List Char) : List UInt8 := cs.flatMap String.utf8EncodeChar

/-- The octet of a small letter for that of a capital one. -/
def lowerOctet (o : UInt8) : UInt8 := if 65 ≤ o.toNat ∧ o.toNat ≤ 90 then o + 32 else o

/-- Takes the octets of the word `vlan` off the front. -/
def dropWordOctets (os : List UInt8) : List UInt8 :=
  if (os.take 4).map lowerOctet = octets ['v', 'l', 'a', 'n'] then os.drop 4 else os

theorem encode_of_lt {c : Char} (h : c.toNat < 128) :
    String.utf8EncodeChar c = [UInt8.ofNat c.toNat] := by
  have hle : c.val.toNat ≤ 127 := Nat.le_of_lt_succ h
  unfold String.utf8EncodeChar
  exact if_pos hle

/-- No other character's first octet is that of a letter. -/
theorem exists_encode_of_le {c : Char} (h : 128 ≤ c.toNat) :
    ∃ o os, String.utf8EncodeChar c = o :: os ∧ 128 ≤ o.toNat := by
  have hgt : ¬ c.val.toNat ≤ 127 := by
    have hval : 128 ≤ c.val.toNat := h
    omega
  have hlarge : ∀ n, 128 ≤ n → n < 256 → 128 ≤ (UInt8.ofNat n).toNat := by
    intro n hn hlt
    rwa [UInt8.toNat_ofNat', Nat.mod_eq_of_lt hlt]
  unfold String.utf8EncodeChar
  dsimp only
  rw [if_neg hgt]
  split
  · exact ⟨_, _, rfl, hlarge _ (by omega) (by omega)⟩
  · split
    · exact ⟨_, _, rfl, hlarge _ (by omega) (by omega)⟩
    · exact ⟨_, _, rfl, hlarge _ (by omega) (by omega)⟩

theorem lowerOctet_ofNat {c : Char} (h : c.toNat < 128) :
    lowerOctet (UInt8.ofNat c.toNat) = UInt8.ofNat c.toLower.toNat ∧ c.toLower.toNat < 128 :=
  forall_plain (P := fun c => lowerOctet (UInt8.ofNat c.toNat) = UInt8.ofNat c.toLower.toNat ∧
    c.toLower.toNat < 128) (by decide) h

theorem ofNat_toNat_eq_iff {c d : Char} (hc : c.toNat < 128) (hd : d.toNat < 128) :
    UInt8.ofNat c.toNat = UInt8.ofNat d.toNat ↔ c = d := by
  constructor
  · intro h
    have hnat := congrArg UInt8.toNat h
    rw [UInt8.toNat_ofNat', UInt8.toNat_ofNat', Nat.mod_eq_of_lt (by omega),
      Nat.mod_eq_of_lt (by omega)] at hnat
    rw [← Char.ofNat_toNat c, ← Char.ofNat_toNat d, hnat]
  · rintro rfl
    rfl

/-- A word of plain letters begins a text in octets just if it does in characters, and ends where it does. -/
theorem take_octets {word : List Char} (hword : ∀ l ∈ word, l.toNat < 128) (cs : List Char) :
    (((octets cs).take word.length).map lowerOctet = octets word ↔
        (cs.take word.length).map Char.toLower = word) ∧
      ((cs.take word.length).map Char.toLower = word →
        (octets cs).drop word.length = octets (cs.drop word.length)) := by
  induction word generalizing cs with
  | nil => simp [octets]
  | cons l word ih =>
    have hl := hword l List.mem_cons_self
    have hhead : octets (l :: word) = UInt8.ofNat l.toNat :: octets word := by
      rw [octets, List.flatMap_cons, encode_of_lt hl]
      rfl
    cases cs with
    | nil => simp [octets, encode_of_lt hl]
    | cons c cs =>
      rw [hhead]
      rcases Nat.lt_or_ge c.toNat 128 with hc | hc
      · obtain ⟨hlower, hsmall⟩ := lowerOctet_ofNat hc
        obtain ⟨hsame, hrest⟩ := ih (fun l hl => hword l (List.mem_cons_of_mem _ hl)) cs
        have hfirst : octets (c :: cs) = UInt8.ofNat c.toNat :: octets cs := by
          rw [octets, List.flatMap_cons, encode_of_lt hc]
          rfl
        simp only [hfirst, List.length_cons, List.take_succ_cons, List.map_cons, List.cons.injEq,
          List.drop_succ_cons, hlower, hsame, ofNat_toNat_eq_iff hsmall hl]
        exact ⟨trivial, fun h => hrest h.2⟩
      · -- neither the character nor its first octet is the letter
        obtain ⟨o, os, hencode, ho⟩ := exists_encode_of_le hc
        have hstays : lowerOctet o = o := if_neg (by omega)
        have hoctet : o ≠ UInt8.ofNat l.toNat := by
          rintro rfl
          rw [UInt8.toNat_ofNat', Nat.mod_eq_of_lt (by omega)] at ho
          omega
        have hletter : c.toLower ≠ l := by
          rw [toLower_of_le hc]
          rintro rfl
          omega
        have hfirst : octets (c :: cs) = o :: (os ++ octets cs) := by
          rw [octets, List.flatMap_cons, hencode]
          rfl
        simp only [hfirst, List.length_cons, List.take_succ_cons, List.map_cons, List.cons.injEq,
          hstays, hoctet, hletter, false_and, false_imp_iff, and_true]

theorem octets_dropWord (cs : List Char) : octets (dropWord cs) = dropWordOctets (octets cs) := by
  have hplain : ∀ l ∈ ['v', 'l', 'a', 'n'], l.toNat < 128 := by simp
  have hlength : ['v', 'l', 'a', 'n'].length = 4 := rfl
  obtain ⟨hsame, hrest⟩ := take_octets hplain cs
  rw [hlength] at hsame hrest
  unfold dropWord dropWordOctets
  by_cases h : (cs.take 4).map Char.toLower = ['v', 'l', 'a', 'n']
  · rw [if_pos h, if_pos (hsame.2 h)]
    exact (hrest h).symm
  · rw [if_neg h, if_neg (mt hsame.1 h)]

theorem read_eq_some_iff {s : String} {n : Nat} :
    parseSigned? 10 65535 (dropWord s.toList) = some n ↔ Spells s n ∧ n ≤ 65535 := by
  rw [spells_iff]
  exact parseSigned?_eq_some_iff (by decide)

theorem Spells.unique {s : String} {m n : Nat} (hm : Spells s m) (hn : Spells s n) : m = n := by
  rw [spells_iff, ← digits_unsigned_iff (by decide), ← parse?_eq_some_iff (by decide)] at hm hn
  exact Option.some.inj (hm.symm.trans hn)

theorem ofNat_eq_ok_iff {n : Nat} {v : Vid} : ofNat n = .ok v ↔ n = v.number := by
  unfold ofNat ofNat?
  by_cases hle : n ≤ 4094
  · simp only [hle, dite_true, Except.ok.injEq]
    exact ⟨fun h => h ▸ rfl, fun h => Vid.ext h⟩
  · simp only [hle, dite_false, reduceCtorEq, false_iff]
    rintro rfl
    exact hle v.number_le

theorem ofNat_eq_error_iff {n k : Nat} : ofNat n = .error (.vid k) ↔ 4095 ≤ n ∧ n = k := by
  unfold ofNat ofNat?
  by_cases hle : n ≤ 4094
  · simp only [hle, dite_true, reduceCtorEq, false_iff]
    omega
  · have hlarge : 4095 ≤ n := Nat.not_le.1 hle
    simp only [hle, dite_false, Except.error.injEq, Malformed.vid.injEq, hlarge, true_and]

theorem parse_of_spells {s : String} {n : Nat} (h : Spells s n) (hle : n ≤ 65535) :
    parse s = ofNat n := by
  rw [parse, read_eq_some_iff.2 ⟨h, hle⟩]

theorem parse_of_not_spells {s : String} (h : ∀ n ≤ 65535, ¬ Spells s n) :
    parse s = .error (.vid 65535) := by
  have hnone : parseSigned? 10 65535 (dropWord s.toList) = none := by
    refine Option.eq_none_iff_forall_ne_some.2 fun n hn => ?_
    obtain ⟨hspells, hle⟩ := read_eq_some_iff.1 hn
    exact h n hle hspells
  rw [parse, hnone]

theorem parse_eq_ok_iff {s : String} {v : Vid} : parse s = .ok v ↔ Spells s v.number := by
  by_cases hread : ∃ n ≤ 65535, Spells s n
  · obtain ⟨n, hle, hn⟩ := hread
    rw [parse_of_spells hn hle, ofNat_eq_ok_iff]
    constructor
    · rintro rfl
      exact hn
    · exact hn.unique
  · have hnone : ∀ n ≤ 65535, ¬ Spells s n := fun n hle hn => hread ⟨n, hle, hn⟩
    rw [parse_of_not_spells hnone]
    simp only [reduceCtorEq, false_iff]
    exact hnone v.number (Nat.le_trans v.number_le (by decide))

theorem parse_eq_error_iff {s : String} {k : Nat} : parse s = .error (.vid k) ↔
    Spells s k ∧ 4095 ≤ k ∧ k ≤ 65535 ∨ (∀ n ≤ 65535, ¬ Spells s n) ∧ k = 65535 := by
  by_cases hread : ∃ n ≤ 65535, Spells s n
  · obtain ⟨n, hle, hn⟩ := hread
    rw [parse_of_spells hn hle, ofNat_eq_error_iff]
    constructor
    · rintro ⟨hlarge, rfl⟩
      exact Or.inl ⟨hn, hlarge, hle⟩
    · rintro (⟨hk, hlarge, -⟩ | ⟨hnone, -⟩)
      · cases hn.unique hk
        exact ⟨hlarge, rfl⟩
      · exact absurd hn (hnone n hle)
  · have hnone : ∀ n ≤ 65535, ¬ Spells s n := fun n hle hn => hread ⟨n, hle, hn⟩
    rw [parse_of_not_spells hnone, Except.error.injEq, Malformed.vid.injEq]
    constructor
    · rintro rfl
      exact Or.inr ⟨hnone, rfl⟩
    · rintro (⟨hk, -, hle⟩ | ⟨-, rfl⟩)
      · exact absurd hk (hnone k hle)
      · rfl

theorem parse_text (v : Vid) : parse v.text = .ok v := by
  have hdigits : Digits 10 (digits 10 v.number) v.number :=
    (parse?_eq_some_iff (by decide)).1 (parse_digits (by decide) (by decide) v.number)
  refine parse_eq_ok_iff.2 (Or.inl (.bare ?_))
  rwa [text, decimal, String.toList_ofList]

end Vid

/-! ### Ether types -/

namespace EtherType

/-- A text spells an ether type when it is the name of a tag's standard, or a hexadecimal numeral for the
number, behind `0x` or without it; letters may be of either case. -/
inductive Spells (s : String) : EtherType → Prop
  | customer : s.toList.map Char.toLower = "802.1q".toList → Spells s dot1q
  | service : s.toList.map Char.toLower = "802.1ad".toList → Spells s dot1ad
  | bare {t : EtherType} : Numeral 16 s.toList t.number.toNat → Spells s t
  | marked {t : EtherType} {x : Char} {cs : List Char} : s.toList = '0' :: x :: cs →
    x.toLower = 'x' → Numeral 16 cs t.number.toNat → Spells s t

/-- What stands behind the mark of a hexadecimal number, if there is one. -/
def unmarked (cs : List Char) : List Char :=
  match cs with
  | '0' :: 'x' :: rest => rest
  | _ => cs

theorem ofLower?_of_ne {cs : List Char} (hcustomer : cs ≠ "802.1q".toList)
    (hservice : cs ≠ "802.1ad".toList) {t : EtherType} :
    ofLower? cs = some t ↔ Numeral 16 (unmarked cs) t.number.toNat := by
  have hread : ofLower? cs = (parseSigned? 16 65535 (unmarked cs)).map fun n => ⟨UInt16.ofNat n⟩ := by
    unfold ofLower?
    rw [if_neg hcustomer, if_neg hservice]
    rfl
  rw [hread, Option.map_eq_some_iff]
  constructor
  · rintro ⟨n, hn, rfl⟩
    obtain ⟨hnumeral, hle⟩ := (parseSigned?_eq_some_iff (by decide)).1 hn
    rwa [UInt16.toNat_ofNat', Nat.mod_eq_of_lt (Nat.lt_succ_of_le hle)]
  · intro h
    have hle : t.number.toNat ≤ 65535 := Nat.le_of_lt_succ t.number.toNat_lt
    exact ⟨_, (parseSigned?_eq_some_iff (by decide)).2 ⟨h, hle⟩,
      congrArg EtherType.mk UInt16.ofNat_toNat⟩

theorem ofLower?_eq_some_iff {s : String} {t : EtherType} :
    ofLower? (s.toList.map Char.toLower) = some t ↔ Spells s t := by
  constructor
  · intro h
    by_cases hcustomer : s.toList.map Char.toLower = "802.1q".toList
    · rw [hcustomer] at h
      cases h
      exact .customer hcustomer
    · by_cases hservice : s.toList.map Char.toLower = "802.1ad".toList
      · rw [hservice] at h
        cases h
        exact .service hservice
      · rw [ofLower?_of_ne hcustomer hservice] at h
        unfold unmarked at h
        split at h
        · rename_i rest hmark
          obtain ⟨c, cs, hs, hzero, hcs⟩ := List.map_eq_cons_iff.1 hmark
          obtain ⟨x, digits, rfl, hx, rfl⟩ := List.map_eq_cons_iff.1 hcs
          rw [toLower_eq_iff (by decide)] at hzero
          subst hzero
          exact .marked hs hx ((numeral_map_toLower (by decide)).1 h)
        · exact .bare ((numeral_map_toLower (by decide)).1 h)
  · intro h
    cases h with
    | customer h => rw [h]; rfl
    | service h => rw [h]; rfl
    | bare h =>
      have hlower := (numeral_map_toLower (by decide)).2 h
      have hpoint : '.' ∉ s.toList.map Char.toLower :=
        hlower.not_mem (by decide) (by decide) (by decide)
      have hmark : 'x' ∉ s.toList.map Char.toLower :=
        hlower.not_mem (by decide) (by decide) (by decide)
      generalize s.toList.map Char.toLower = cs at hlower hpoint hmark
      rw [ofLower?_of_ne]
      · unfold unmarked
        split
        · simp at hmark
        · exact hlower
      · rintro rfl
        exact hpoint (by decide)
      · rintro rfl
        exact hpoint (by decide)
    | @marked _ x cs hs hx h =>
      have hlower := (numeral_map_toLower (by decide)).2 h
      have hcs : s.toList.map Char.toLower = '0' :: 'x' :: cs.map Char.toLower := by
        rw [hs, List.map_cons, List.map_cons, hx]
        rfl
      rw [hcs, ofLower?_of_ne]
      · exact hlower
      · exact fun h => absurd (List.cons.inj h).1 (by decide)
      · exact fun h => absurd (List.cons.inj h).1 (by decide)

theorem parse_eq_ok_iff {s : String} {t : EtherType} : parse s = .ok t ↔ Spells s t := by
  rw [← ofLower?_eq_some_iff]
  unfold parse
  cases ofLower? (s.toList.map Char.toLower) <;> simp

theorem parse_eq_error_iff {s : String} : parse s = .error (.etherType s) ↔ ∀ t, ¬ Spells s t := by
  simp only [← parse_eq_ok_iff]
  unfold parse
  cases ofLower? (s.toList.map Char.toLower) <;> simp

theorem parse_text (t : EtherType) : parse t.text = .ok t := by
  have hdigits : Digits 16 (padded 16 4 t.number.toNat) t.number.toNat :=
    (parse?_eq_some_iff (by decide)).1 (parse?_padded (by decide) (by decide) 4 _)
  refine parse_eq_ok_iff.2 (.marked (x := 'x') ?_ (by decide) (.bare hdigits))
  rw [text, String.toList_append, String.toList_ofList, String.toList_ofList]
  rfl

end EtherType

/-! ### The texts that are read -/

/-- Puts hyphens for colons. -/
def hyphen (c : Char) : Char := if c = ':' then '-' else c

theorem digitValue_hyphen (c : Char) : digitValue (hyphen c) = digitValue c := by
  unfold hyphen
  split
  · rename_i hc
    rw [hc]
    decide
  · rfl

/-- A text is read just if it is a spelling, and as what it spells. Any other is refused: as the text that
it is, or for a VLAN with the number if that is one of sixteen bits, else with 65535. The word in front of a
VLAN's number is cut off alike in characters and in octets. What is shown of a value is read back, an address
with hyphens and in capital letters too. -/
theorem read_iff_spelling :
    (∀ s m, Mac.parse s = .ok m ↔ Mac.Spells s m) ∧
    (∀ s, Mac.parse s = .error (.mac s) ↔ ∀ m, ¬ Mac.Spells s m) ∧
    (∀ s v, Vid.parse s = .ok v ↔ Vid.Spells s v.number) ∧
    (∀ s k, Vid.parse s = .error (.vid k) ↔
      Vid.Spells s k ∧ 4095 ≤ k ∧ k ≤ 65535 ∨ (∀ n ≤ 65535, ¬ Vid.Spells s n) ∧ k = 65535) ∧
    (∀ s : String, Vid.octets (Vid.dropWord s.toList) = Vid.dropWordOctets (Vid.octets s.toList)) ∧
    (∀ s t, EtherType.parse s = .ok t ↔ EtherType.Spells s t) ∧
    (∀ s, EtherType.parse s = .error (.etherType s) ↔ ∀ t, ¬ EtherType.Spells s t) ∧
    (∀ m : Mac, Mac.parse m.text = .ok m ∧ Mac.parse (m.text.map hyphen) = .ok m ∧
      Mac.parse (m.text.map Char.toUpper) = .ok m ∧
      Mac.parse ((m.text.map hyphen).map Char.toUpper) = .ok m) ∧
    (∀ v : Vid, Vid.parse v.text = .ok v) ∧
    ∀ t : EtherType, EtherType.parse t.text = .ok t := by
  have hshown : ∀ m : Mac, Mac.parse m.text = .ok m ∧ Mac.parse (m.text.map hyphen) = .ok m ∧
      Mac.parse (m.text.map Char.toUpper) = .ok m ∧
      Mac.parse ((m.text.map hyphen).map Char.toUpper) = .ok m := by
    intro m
    have hboth : (m.text.map hyphen).map Char.toUpper = m.text.map (Char.toUpper ∘ hyphen) := by
      rw [← String.toList_inj]
      simp only [String.toList_map, List.map_map]
    have hvalue : ∀ c, digitValue ((Char.toUpper ∘ hyphen) c) = digitValue c :=
      fun c => (digitValue_toUpper _).trans (digitValue_hyphen c)
    rw [hboth]
    exact ⟨m.parse_text, Mac.parse_map_text digitValue_hyphen (Or.inr (by decide)) m,
      Mac.parse_map_text digitValue_toUpper (Or.inl (by decide)) m,
      Mac.parse_map_text hvalue (Or.inr (by decide)) m⟩
  exact ⟨fun _ _ => Mac.parse_eq_ok_iff, fun _ => Mac.parse_eq_error_iff,
    fun _ _ => Vid.parse_eq_ok_iff, fun _ _ => Vid.parse_eq_error_iff,
    fun s => Vid.octets_dropWord s.toList, fun _ _ => EtherType.parse_eq_ok_iff,
    fun _ => EtherType.parse_eq_error_iff, hshown, Vid.parse_text, EtherType.parse_text⟩

/-- Signs and zeros in front, letters of both cases and hyphens beside a colon. -/
example : Mac.parse "+0:00fF:A:0b:+C:000" = .ok ⟨0, 255, 10, 11, 12, 0⟩ ∧
    Mac.parse "00-11-22-33-44:55" = .error (.mac "00-11-22-33-44:55") ∧
    Vid.parse "vLaN+0004094" = .ok ⟨4094, by decide⟩ ∧ Vid.parse "vlanvlan1" = .error (.vid 65535) ∧
    Vid.parse "4095" = .error (.vid 4095) ∧ Vid.parse "65536" = .error (.vid 65535) ∧
    Vid.parse "vlé1" = .error (.vid 65535) ∧ EtherType.parse "0X+0FFFF" = .ok ⟨65535⟩ ∧
    EtherType.parse "802.1AD" = .ok EtherType.dot1ad := by
  decide +kernel

end VlanBridge.Net
