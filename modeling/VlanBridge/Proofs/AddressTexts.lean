import VlanBridge.Net.Ipv6
import VlanBridge.Net.Mac
/-!
# Addresses read back from their texts

What `text` writes of an address, `parse` gives back. A number ends where no digit of its radix follows,
and what stands between two numbers is none: a colon, a point, or the end of the text. An IPv6 address is
read group by group, and at every group an IPv4 address is looked for first; there is none unless a point
follows the digits. The longest run of zero groups, which is not written, is what is missing to eight.
-/

namespace VlanBridge.Text.Number

variable {radix : Nat}

/-! ### Digits -/

/-- A digit of a radix, in either case. -/
def IsDigit (radix : Nat) (c : Char) : Prop := ((digitValue c).filter (· < radix)).isSome = true

instance (radix : Nat) (c : Char) : Decidable (IsDigit radix c) :=
  inferInstanceAs (Decidable (_ = true))

theorem isDigit_digitChar (h36 : radix ≤ 36) {n : Nat} (h : n < radix) :
    IsDigit radix (digitChar n) := by
  have hvalue := digitValue_digitChar ⟨n, by omega⟩
  simp only at hvalue
  simp [IsDigit, hvalue, h]

theorem digitsWith_eq (h2 : 2 ≤ radix) {fuel more n : Nat} (hn : n < fuel) (hmore : n < more) :
    digitsWith radix fuel n = digitsWith radix more n := by
  induction fuel generalizing more n with
  | zero => exact absurd hn (Nat.not_lt_zero n)
  | succ fuel ih =>
    obtain ⟨more, rfl⟩ : ∃ m, more = m + 1 := ⟨more - 1, by omega⟩
    unfold digitsWith
    split
    · rfl
    · have hquot : n / radix < n := Nat.div_lt_self (by omega) (by omega)
      rw [ih (by omega) (by omega : n / radix < more)]

/-- Digits are written one by one, the last at the end. -/
theorem digits_induction (h2 : 2 ≤ radix) {P : Nat → List Char → Prop}
    (one : ∀ n, n < radix → P n [digitChar n])
    (more : ∀ n ds, radix ≤ n → P (n / radix) ds → P n (ds ++ [digitChar (n % radix)])) (n : Nat) :
    P n (digits radix n) := by
  induction n using Nat.strongRecOn with
  | ind n ih =>
    by_cases hn : n < radix
    · have hlast : digits radix n = [digitChar n] := by
        rw [digits, digitsWith, if_pos hn]
      rw [hlast]
      exact one n hn
    · have hquot : n / radix < n := Nat.div_lt_self (by omega) (by omega)
      have hsplit : digits radix n = digits radix (n / radix) ++ [digitChar (n % radix)] := by
        rw [digits, digitsWith, if_neg hn, digitsWith_eq h2 hquot (Nat.lt_succ_self _)]
        rfl
      rw [hsplit]
      exact more n _ (Nat.not_lt.1 hn) (ih _ hquot)

theorem isDigit_of_mem_digits (h2 : 2 ≤ radix) (h36 : radix ≤ 36) {n : Nat} :
    ∀ c ∈ digits radix n, IsDigit radix c := by
  refine digits_induction h2 (P := fun _ ds => ∀ c ∈ ds, IsDigit radix c) ?_ ?_ n
  · intro n hn c hc
    rw [List.mem_singleton.1 hc]
    exact isDigit_digitChar h36 hn
  · intro n ds _ ih c hc
    rcases List.mem_append.1 hc with hc | hc
    · exact ih c hc
    · rw [List.mem_singleton.1 hc]
      exact isDigit_digitChar h36 (Nat.mod_lt _ (by omega))

/-- A number below a power of the radix has at most as many digits. -/
theorem length_digits_le (h2 : 2 ≤ radix) {width n : Nat} (hwidth : 0 < width)
    (h : n < Nat.pow radix width) : (digits radix n).length ≤ width := by
  refine digits_induction h2
    (P := fun n ds => ∀ width, 0 < width → n < Nat.pow radix width → ds.length ≤ width) ?_ ?_ n width
    hwidth h
  · exact fun _ _ _ hwidth _ => hwidth
  · intro n ds hlarge ih width hwidth hn
    obtain ⟨w, rfl⟩ : ∃ w, width = w + 1 := ⟨width - 1, by omega⟩
    have hn : n < Nat.pow radix w * radix := hn
    have hw : 0 < w := by
      refine Nat.pos_of_ne_zero fun hzero => ?_
      subst hzero
      exact Nat.not_lt.2 hlarge (Nat.lt_of_lt_of_eq hn (Nat.one_mul radix))
    have hquot : n / radix < Nat.pow radix w := (Nat.div_lt_iff_lt_mul (by omega)).2 hn
    have hlength := ih w hw hquot
    rw [List.length_append, List.length_singleton]
    omega

/-- Only zero is written with a zero in front. -/
theorem head?_digits (h2 : 2 ≤ radix) (h36 : radix ≤ 36) {n : Nat} (hpos : 0 < n) :
    (digits radix n).head? ≠ some '0' := by
  have hfirst : digits radix n ≠ [] ∧ (0 < n → (digits radix n).head? ≠ some '0') := by
    refine digits_induction h2
      (P := fun n ds => ds ≠ [] ∧ (0 < n → ds.head? ≠ some '0')) ?_ ?_ n
    · refine fun n hn => ⟨List.cons_ne_nil _ _, fun hpos hzero => ?_⟩
      have hvalue := digitValue_digitChar ⟨n, by omega⟩
      simp only at hvalue
      rw [Option.some.inj hzero, show digitValue '0' = some 0 by decide] at hvalue
      exact absurd (Option.some.inj hvalue) (Nat.ne_of_lt hpos)
    · rintro n ds hlarge ⟨hne, ih⟩
      obtain ⟨d, ds, rfl⟩ := List.exists_cons_of_ne_nil hne
      exact ⟨List.cons_ne_nil _ _, fun _ => ih (Nat.div_pos hlarge (by omega))⟩
  exact hfirst.2 hpos

/-- Zeros in front of a number do not change it. -/
theorem parse?_padded (h2 : 2 ≤ radix) (h36 : radix ≤ 36) (width n : Nat) :
    parse? radix (padded radix width n) = some n := by
  have hzeros : ∀ k, readDigits radix 0 (List.replicate k '0') = some 0 := by
    intro k
    induction k with
    | zero => rfl
    | succ k ih =>
      have hdigit : digitValue '0' = some 0 := by decide
      have hpos : 0 < radix := by omega
      simp only [List.replicate_succ, readDigits, hdigit, hpos, if_true, Nat.zero_mul, Nat.zero_add]
      exact ih
  have hread := parse_digits h2 h36 n
  have hne := digits_ne_nil radix n
  unfold parse? at hread ⊢
  unfold padded
  rw [if_neg (by simpa using hne)] at hread
  rw [if_neg (by simp [hne]), readDigits_append, hzeros, Option.bind_some, hread]

theorem isDigit_of_mem_padded (h2 : 2 ≤ radix) (h36 : radix ≤ 36) {width n : Nat} :
    ∀ c ∈ padded radix width n, IsDigit radix c := by
  intro c hc
  rcases List.mem_append.1 hc with hc | hc
  · rw [List.eq_of_mem_replicate hc]
    exact isDigit_digitChar h36 (n := 0) (by omega)
  · exact isDigit_of_mem_digits h2 h36 c hc

/-- No sign stands in front of digits. -/
theorem parseSigned?_of_digits {bound : Nat} {cs : List Char} (h : ∀ c ∈ cs, IsDigit radix c)
    {n : Nat} (hn : parse? radix cs = some n) (hbound : n ≤ bound) :
    parseSigned? radix bound cs = some n := by
  unfold parseSigned?
  split
  · have hplus := h '+' List.mem_cons_self
    simp [IsDigit, show digitValue '+' = none by decide] at hplus
  · simp only [hn, hbound, if_true]

end VlanBridge.Text.Number

namespace VlanBridge.Text

/-- Parts without the separator are found again where they were joined. -/
theorem splitAt_joinWith {sep : Char} {parts : List (List Char)} (hne : parts ≠ [])
    (h : ∀ part ∈ parts, sep ∉ part) : splitAt sep (joinWith sep parts) = parts := by
  induction parts with
  | nil => exact absurd rfl hne
  | cons part parts ih =>
    have hpart := h part List.mem_cons_self
    cases parts with
    | nil => exact splitAt_self hpart
    | cons next parts =>
      rw [joinWith, splitAt_append hpart,
        ih (List.cons_ne_nil _ _) fun p hp => h p (List.mem_cons_of_mem _ hp)]
      exact List.cons_ne_nil _ _

end VlanBridge.Text

namespace VlanBridge.Net

open VlanBridge.Text VlanBridge.Text.Number

/-! ### Numbers in front of something else -/

/-- The text is at its end or goes on with something that is no digit. -/
def NoDigit (radix : Nat) (rest : List Char) : Prop := ∀ c, rest.head? = some c → ¬ IsDigit radix c

theorem noDigit_nil (radix : Nat) : NoDigit radix [] := nofun

theorem noDigit_cons {radix : Nat} {c : Char} (hc : ¬ IsDigit radix c) (rest : List Char) :
    NoDigit radix (c :: rest) := by
  rintro d hd
  cases hd
  exact hc

/-- All digits are taken, and nothing behind them. -/
theorem span_digits {radix : Nat} {ds rest : List Char} (hds : ∀ c ∈ ds, IsDigit radix c)
    (hrest : NoDigit radix rest) :
    (ds ++ rest).takeWhile (fun c => ((digitValue c).filter (· < radix)).isSome) = ds ∧
      (ds ++ rest).dropWhile (fun c => ((digitValue c).filter (· < radix)).isSome) = rest := by
  have hstop : rest.takeWhile (fun c => ((digitValue c).filter (· < radix)).isSome) = [] ∧
      rest.dropWhile (fun c => ((digitValue c).filter (· < radix)).isSome) = rest := by
    cases rest with
    | nil => exact ⟨rfl, rfl⟩
    | cons c cs =>
      have hc := hrest c rfl
      exact ⟨List.takeWhile_cons_of_neg hc, List.dropWhile_cons_of_neg hc⟩
  rw [List.takeWhile_append_of_pos hds, List.dropWhile_append_of_pos hds, hstop.1, hstop.2,
    List.append_nil]
  exact ⟨rfl, rfl⟩

namespace NumberForm

variable {form : NumberForm} {n : Nat} {rest : List Char}

theorem read?_digits (h2 : 2 ≤ form.radix) (h36 : form.radix ≤ 36) (hbound : n ≤ form.bound)
    (hwidth : (digits form.radix n).length ≤ form.width) (hrest : NoDigit form.radix rest) :
    form.read? (digits form.radix n ++ rest) = some (n, rest) := by
  obtain ⟨htake, hdrop⟩ := span_digits (isDigit_of_mem_digits h2 h36 (n := n)) hrest
  have hfirst : (!form.leadingZeros && decide (1 < (digits form.radix n).length) &&
      (digits form.radix n).head? == some '0') = false := by
    rcases Nat.eq_zero_or_pos n with rfl | hpos
    · have hzero : (digits form.radix 0).length = 1 := by
        rw [digits, digitsWith, if_pos (by omega)]
        rfl
      simp [hzero]
    · have hne := head?_digits h2 h36 hpos
      simp [hne]
  unfold read?
  simp only [htake, hdrop, parse_digits h2 h36]
  rw [if_neg (by omega), hfirst, if_neg Bool.false_ne_true, if_pos hbound]

theorem read?_of_noDigit (h : NoDigit form.radix rest) : form.read? rest = none := by
  have hnone : ∀ c ∈ ([] : List Char), IsDigit form.radix c := nofun
  obtain ⟨htake, -⟩ := span_digits hnone h
  rw [List.nil_append] at htake
  unfold read?
  simp only [htake]
  simp [parse?]

end NumberForm

theorem NumberForm.rest_of_read? {form : NumberForm} {n : Nat} {cs rest : List Char}
    (h : form.read? cs = some (n, rest)) :
    rest = cs.dropWhile fun c => ((digitValue c).filter (· < form.radix)).isSome := by
  unfold read? at h
  simp only at h
  split at h
  · cases h
  · split at h
    · cases h
    · split at h
      · split at h
        · cases h
          rfl
        · cases h
      · cases h

/-! ### MAC addresses -/

namespace Mac

theorem octet?_padded (o : UInt8) : octet? (padded 16 2 o.toNat) = some o := by
  have hdigits : parse? 16 (padded 16 2 o.toNat) = some o.toNat :=
    parse?_padded (by decide) (by decide) 2 o.toNat
  have hread := parseSigned?_of_digits (isDigit_of_mem_padded (by decide) (by decide)) hdigits
    (Nat.le_of_lt_succ o.toNat_lt)
  unfold octet?
  rw [hread]
  exact congrArg some UInt8.ofNat_toNat

theorem parse_text (m : Mac) : parse m.text = .ok m := by
  have hcolon : ∀ part ∈ m.octets.map (fun o => padded 16 2 o.toNat), ':' ∉ part := by
    intro part hpart hmem
    obtain ⟨o, -, rfl⟩ := List.mem_map.1 hpart
    exact absurd (isDigit_of_mem_padded (by decide) (by decide) ':' hmem) (by decide)
  have hne : m.octets.map (fun o => padded 16 2 o.toNat) ≠ [] := List.cons_ne_nil _ _
  have hsplit := splitAt_joinWith hne hcolon
  have hmem : ':' ∈ m.chars := List.mem_append_right _ List.mem_cons_self
  have hread : ofChars? m.chars = some m := by
    unfold ofChars?
    rw [if_pos hmem]
    unfold chars
    rw [hsplit]
    simp only [octets, List.map_cons, List.map_nil, octet?_padded]
  unfold parse text
  rw [String.toList_ofList, hread]

end Mac

/-! ### IPv4 addresses -/

namespace Ipv4

theorem read?_octet (o : UInt8) {rest : List Char} (hrest : NoDigit 10 rest) :
    octetForm.read? (digits 10 o.toNat ++ rest) = some (o.toNat, rest) := by
  have hbound : o.toNat ≤ 255 := Nat.le_of_lt_succ o.toNat_lt
  refine octetForm.read?_digits (by decide) (by decide) hbound ?_ hrest
  exact length_digits_le (by decide) (by decide) (Nat.lt_of_le_of_lt hbound (by decide))

theorem read?_chars (ip : Ipv4) {rest : List Char} (hrest : NoDigit 10 rest) :
    read? (ip.chars ++ rest) = some (ip, rest) := by
  have hpoint : ∀ cs, NoDigit 10 ('.' :: cs) := noDigit_cons (by decide)
  unfold read? chars
  simp only [List.append_assoc, List.cons_append, separated?, if_true, read?_octet _ (hpoint _),
    read?_octet _ hrest, Option.bind_eq_bind, Option.bind_some, Option.pure_def,
    Bool.false_eq_true, if_false]
  simp [ofNats]

theorem parse?_text (ip : Ipv4) : parse? ip.text = some ip := by
  have hread := ip.read?_chars (noDigit_nil 10)
  rw [List.append_nil] at hread
  unfold parse? text
  rw [String.toList_ofList, hread]

/-- Digits that no point follows are no IPv4 address. -/
theorem read?_eq_none {cs : List Char}
    (h : (cs.dropWhile fun c => ((digitValue c).filter (· < 10)).isSome).head? ≠ some '.') :
    read? cs = none := by
  unfold read? separated?
  cases hread : octetForm.read? cs with
  | none => simp
  | some out =>
    obtain ⟨n, rest⟩ := out
    have hrest := NumberForm.rest_of_read? hread
    have hpoint : rest.head? ≠ some '.' := hrest ▸ h
    cases rest with
    | nil => simp
    | cons c rest =>
      have hc : c ≠ '.' := fun e => hpoint (e ▸ rfl)
      simp [hc]

end Ipv4

/-! ### IPv6 addresses -/

namespace Ipv6

/-- What may stand behind a group: nothing, or a colon. -/
def EndsGroup (rest : List Char) : Prop := rest = [] ∨ ∃ cs, rest = ':' :: cs

/-- What may stand behind a row of groups: nothing, or the colons for the groups that are left out. -/
def EndsGroups (rest : List Char) : Prop := rest = [] ∨ ∃ cs, rest = ':' :: ':' :: cs

theorem EndsGroups.endsGroup {rest : List Char} (h : EndsGroups rest) : EndsGroup rest :=
  h.imp_right fun ⟨cs, hcs⟩ => ⟨':' :: cs, hcs⟩

theorem EndsGroup.noDigit {rest : List Char} (h : EndsGroup rest) {radix : Nat}
    (hradix : ¬ IsDigit radix ':') : NoDigit radix rest := by
  rcases h with rfl | ⟨cs, rfl⟩
  · exact noDigit_nil radix
  · exact noDigit_cons hradix cs

/-- A group is not the beginning of an IPv4 address, though its digits may be decimal ones. -/
theorem ipv4_read?_group (g : UInt16) {rest : List Char} (h : EndsGroup rest) :
    Ipv4.read? (digits 16 g.toNat ++ rest) = none := by
  have hrest : (rest.dropWhile fun c => ((digitValue c).filter (· < 10)).isSome).head? ≠ some '.' := by
    rcases h with rfl | ⟨cs, rfl⟩
    · exact nofun
    · rw [List.dropWhile_cons_of_neg (by decide)]
      simp
  refine Ipv4.read?_eq_none ?_
  have hdigits : ∀ c ∈ digits 16 g.toNat, IsDigit 16 c :=
    isDigit_of_mem_digits (by decide) (by decide)
  generalize digits 16 g.toNat = ds at hdigits
  induction ds with
  | nil => exact hrest
  | cons d ds ih =>
    rw [List.cons_append, List.dropWhile_cons]
    split
    · exact ih fun c hc => hdigits c (List.mem_cons_of_mem _ hc)
    · rintro h
      cases h
      exact absurd (hdigits '.' List.mem_cons_self) (by decide)

theorem read?_group (g : UInt16) {rest : List Char} (h : EndsGroup rest) :
    groupForm.read? (digits 16 g.toNat ++ rest) = some (g.toNat, rest) := by
  have hbound : g.toNat ≤ 65535 := Nat.le_of_lt_succ g.toNat_lt
  refine groupForm.read?_digits (by decide) (by decide) hbound ?_ (h.noDigit (by decide))
  exact length_digits_le (by decide) (by decide) (Nat.lt_of_le_of_lt hbound (by decide))

/-- A group behind its separator, if it is not the first. -/
theorem readGroups_cons (limit : Nat) (isFirst : Bool) (g : UInt16) {rest : List Char}
    (h : EndsGroup rest) :
    readGroups (limit + 1) isFirst
        ((if isFirst then [] else [':']) ++ (digits 16 g.toNat ++ rest)) =
      (g :: (readGroups limit false rest).1, (readGroups limit false rest).2) := by
  have hfour : separated? ':' isFirst Ipv4.read?
      ((if isFirst then [] else [':']) ++ (digits 16 g.toNat ++ rest)) = none := by
    cases isFirst <;> simp [separated?, ipv4_read?_group g h]
  have hgroup : separated? ':' isFirst groupForm.read?
      ((if isFirst then [] else [':']) ++ (digits 16 g.toNat ++ rest)) =
        some (g.toNat, rest) := by
    cases isFirst <;> simp [separated?, read?_group g h]
  rw [readGroups]
  simp only [hfour, hgroup, ite_self, UInt16.ofNat_toNat]

theorem readGroups_nil (limit : Nat) (isFirst : Bool) {rest : List Char} (h : EndsGroups rest) :
    readGroups limit isFirst rest = ([], false, rest) := by
  cases limit with
  | zero => rfl
  | succ limit =>
    have hcolon : ∀ cs, groupForm.read? (':' :: cs) = none ∧ Ipv4.read? (':' :: cs) = none := by
      intro cs
      refine ⟨groupForm.read?_of_noDigit (noDigit_cons (by decide) cs), Ipv4.read?_eq_none ?_⟩
      rw [List.dropWhile_cons_of_neg (by decide)]
      simp
    have hnone : separated? ':' isFirst Ipv4.read? rest = none ∧
        separated? ':' isFirst groupForm.read? rest = none := by
      rcases h with rfl | ⟨cs, rfl⟩
      · cases isFirst <;> exact ⟨rfl, rfl⟩
      · cases isFirst <;> simp [separated?, hcolon]
    unfold readGroups
    simp only [hnone, ite_self]

/-- Groups, each behind a colon. -/
def laterChars (gs : List UInt16) : List Char := gs.flatMap fun g => ':' :: digits 16 g.toNat

theorem endsGroup_laterChars (gs : List UInt16) {rest : List Char} (h : EndsGroups rest) :
    EndsGroup (laterChars gs ++ rest) := by
  cases gs with
  | nil => exact h.endsGroup
  | cons g gs => exact Or.inr ⟨_, rfl⟩

theorem groupChars_cons (g : UInt16) (gs : List UInt16) :
    groupChars (g :: gs) = digits 16 g.toNat ++ laterChars gs := by
  induction gs generalizing g with
  | nil => simp [groupChars, laterChars]
  | cons next gs ih =>
    rw [groupChars, ih next]
    · rfl
    · exact List.cons_ne_nil _ _

theorem readGroups_laterChars {gs : List UInt16} {limit : Nat} (hlimit : gs.length ≤ limit)
    {rest : List Char} (h : EndsGroups rest) :
    readGroups limit false (laterChars gs ++ rest) = (gs, false, rest) := by
  induction gs generalizing limit with
  | nil => exact readGroups_nil limit false h
  | cons g gs ih =>
    rw [List.length_cons] at hlimit
    obtain ⟨limit, rfl⟩ : ∃ l, limit = l + 1 := ⟨limit - 1, by omega⟩
    have hstep := readGroups_cons limit false g (endsGroup_laterChars gs h)
    rw [ih (by omega)] at hstep
    rw [← hstep]
    simp [laterChars]

theorem readGroups_groupChars {gs : List UInt16} {limit : Nat} (hlimit : gs.length ≤ limit)
    {rest : List Char} (h : EndsGroups rest) :
    readGroups limit true (groupChars gs ++ rest) = (gs, false, rest) := by
  cases gs with
  | nil => exact readGroups_nil limit true h
  | cons g gs =>
    rw [List.length_cons] at hlimit
    obtain ⟨limit, rfl⟩ : ∃ l, limit = l + 1 := ⟨limit - 1, by omega⟩
    have hstep := readGroups_cons limit true g (endsGroup_laterChars gs h)
    rw [readGroups_laterChars (by omega) h] at hstep
    rw [← hstep, groupChars_cons]
    simp

/-- The run of zero groups that is left out, with what stands before and behind it. -/
theorem longestZeros_eq (i : Nat) (gs : List UInt16) (h : 0 < (longestZeros i gs).2) :
    ∃ before behind, gs = before ++ List.replicate (longestZeros i gs).2 0 ++ behind ∧
      (longestZeros i gs).1 = i + before.length := by
  induction gs generalizing i with
  | nil => exact absurd h (Nat.lt_irrefl 0)
  | cons g gs ih =>
    unfold longestZeros at h ⊢
    simp only at h ⊢
    split
    · -- the run starts here
      refine ⟨[], (g :: gs).dropWhile (· == 0), ?_, rfl⟩
      have hzeros : (g :: gs).takeWhile (· == 0) =
          List.replicate ((g :: gs).takeWhile (· == 0)).length 0 := by
        refine List.eq_replicate_iff.2 ⟨rfl, fun z hz => ?_⟩
        exact beq_iff_eq.1 (List.all_eq_true.1 List.all_takeWhile z hz)
      rw [List.nil_append, ← hzeros, List.takeWhile_append_dropWhile]
    · rename_i hlater
      rw [if_neg hlater] at h
      obtain ⟨before, behind, hsplit, hstart⟩ := ih (i + 1) h
      refine ⟨g :: before, behind, ?_, ?_⟩
      · exact congrArg (g :: ·) hsplit
      · rw [hstart, List.length_cons]
        omega

theorem read?_groupChars (ip : Ipv6) : read? (groupChars ip.groups) = some (ip, []) := by
  have hall := readGroups_groupChars (Nat.le_of_eq ip.groups_length) (Or.inl rfl : EndsGroups [])
  rw [List.append_nil] at hall
  unfold read?
  simp only [hall, ip.groups_length, if_true, ofGroups?_groups, Option.map_some]

/-- Groups on both sides of the colons for those that are left out. -/
theorem read?_gap {ip : Ipv6} {before behind : List UInt16} {length : Nat} (hlength : 1 < length)
    (hgroups : ip.groups = before ++ List.replicate length 0 ++ behind) :
    read? (groupChars before ++ ':' :: ':' :: groupChars behind) = some (ip, []) := by
  have hsum : before.length + length + behind.length = 8 := by
    have hcount := ip.groups_length
    rw [hgroups, List.length_append, List.length_append, List.length_replicate] at hcount
    exact hcount
  have hbefore : before.length ≤ 8 := by omega
  have hhead := readGroups_groupChars hbefore (Or.inr ⟨groupChars behind, rfl⟩)
  have hbehind : behind.length ≤ 7 - before.length := by omega
  have htail := readGroups_groupChars hbehind (Or.inl rfl : EndsGroups [])
  rw [List.append_nil] at htail
  have hfew : ¬ before.length = 8 := by omega
  have hzeros : 8 - before.length - behind.length = length := by omega
  unfold read?
  simp only [hhead, htail, hfew, if_false, Bool.false_eq_true, hzeros, ← hgroups, ofGroups?_groups,
    Option.map_some]

theorem group_halves (g : UInt16) :
    group (UInt8.ofNat (g.toNat / 256)) (UInt8.ofNat (g.toNat % 256)) = g := by
  have hg : g.toNat < 65536 := g.toNat_lt
  have hhigh : (UInt8.ofNat (g.toNat / 256)).toNat = g.toNat / 256 :=
    UInt8.toNat_ofNat_of_lt (by show _ < 256; omega)
  have hlow : (UInt8.ofNat (g.toNat % 256)).toNat = g.toNat % 256 :=
    UInt8.toNat_ofNat_of_lt (by show _ < 256; omega)
  unfold group
  rw [hhigh, hlow, Nat.div_add_mod', UInt16.ofNat_toNat]

/-- An address that carries an IPv4 address, with that one in decimal. -/
theorem read?_mapped {ip : Ipv6} {v4 : Ipv4} (h : ip.mapped? = some v4) :
    read? ("::ffff:".toList ++ v4.chars) = some (ip, []) := by
  have hcolons : "::ffff:".toList ++ v4.chars = ':' :: ':' :: ("ffff:".toList ++ v4.chars) := rfl
  have hhead := readGroups_nil 8 true (Or.inr ⟨_, hcolons⟩)
  have hfour : readGroups 6 false (':' :: v4.chars) =
      ([group v4.o0 v4.o1, group v4.o2 v4.o3], true, []) := by
    have hread := v4.read?_chars (noDigit_nil 10)
    rw [List.append_nil] at hread
    rw [readGroups]
    simp [separated?, hread]
  have htail : readGroups 7 true ("ffff:".toList ++ v4.chars) =
      ([65535, group v4.o0 v4.o1, group v4.o2 v4.o3], true, []) := by
    have hstep := readGroups_cons 6 true 65535 (Or.inr ⟨v4.chars, rfl⟩ : EndsGroup (':' :: v4.chars))
    rw [hfour] at hstep
    exact hstep
  have hgroups : ip.groups = [0, 0, 0, 0, 0, 65535, group v4.o0 v4.o1, group v4.o2 v4.o3] := by
    unfold mapped? at h
    split at h
    · cases h
      rename_i hsix
      rw [← List.take_append_drop 6 ip.groups, hsix]
      simp only [Ipv4.ofNats, group_halves]
      rfl
    · cases h
  have hip := ofGroups?_groups ip
  rw [hgroups] at hip
  unfold read?
  rw [hhead, hcolons]
  simp only [List.length_nil, htail]
  simpa using hip

theorem parse?_text (ip : Ipv6) : parse? ip.text = some ip := by
  have hread : read? ip.chars = some (ip, []) := by
    unfold chars
    split
    · exact read?_mapped ‹_›
    · simp only
      split
      · rename_i hlong
        obtain ⟨before, behind, hgroups, hstart⟩ := longestZeros_eq 0 ip.groups (by omega)
        generalize longestZeros 0 ip.groups = run at hlong hgroups hstart
        have htake : ip.groups.take run.1 = before := by
          rw [hstart, Nat.zero_add, hgroups, List.append_assoc, List.take_left]
        have hdrop : ip.groups.drop (run.1 + run.2) = behind := by
          rw [hgroups, hstart, Nat.zero_add]
          exact List.drop_left' (by simp)
        rw [htake, hdrop]
        exact read?_gap hlong hgroups
      · exact ip.read?_groupChars
  unfold parse? text
  rw [String.toList_ofList, hread]

end Ipv6

end VlanBridge.Net
