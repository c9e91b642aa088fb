import VlanBridge.Fdb.Key
/-!
# The order of keys

A forwarding table ranks its keys by one number. Here the order is said part by part: by VLAN, then MAC
before IPv4 before IPv6, then by the octets of the address (for IPv6 the groups), the first that differs
deciding. `Key.rank_lt_iff` says that ranks compare in just this order: no part reaches the base that it
is written to. So keys of one rank are the same key (`Key.eq_of_rank_eq`).
-/

namespace VlanBridge

open VlanBridge.Net

/-! ### Numbers and their digits -/

/-- Numbers in two parts compare by the first part, and by the second where the first parts agree. -/
theorem two_parts_lt_iff {n a b r s : Nat} (hr : r < n) (hs : s < n) :
    a * n + r < b * n + s ↔ a < b ∨ a = b ∧ r < s := by
  -- one step of the first part makes up for any second part
  have hstep : ∀ {c d : Nat}, c < d → c * n + n ≤ d * n := by
    intro c d hcd
    have hmul := Nat.mul_le_mul_right n (Nat.succ_le_of_lt hcd)
    rw [Nat.succ_mul] at hmul
    exact hmul
  rcases Nat.lt_trichotomy a b with hlt | rfl | hgt
  · have := hstep hlt
    omega
  · omega
  · have := hstep hgt
    omega

/-- The number of a row of digits, which follow the digits of another number. -/
def readOn (base acc : Nat) (digits : List Nat) : Nat :=
  digits.foldl (fun acc d => acc * base + d) acc

theorem readOn_lt_pow {base acc : Nat} {xs : List Nat} (hxs : ∀ x ∈ xs, x < base) :
    readOn base acc xs < (acc + 1) * base.pow xs.length := by
  induction xs generalizing acc with
  | nil => simp [readOn]
  | cons x xs ih =>
    have hx := hxs x (List.mem_cons_self ..)
    have hrest : readOn base (acc * base + x) xs < (acc * base + x + 1) * base.pow xs.length :=
      ih fun z hz => hxs z (List.mem_cons_of_mem _ hz)
    have hle : acc * base + x + 1 ≤ (acc + 1) * base := by
      rw [Nat.succ_mul]
      omega
    calc readOn base acc (x :: xs)
        < (acc * base + x + 1) * base.pow xs.length := hrest
      _ ≤ (acc + 1) * base * base.pow xs.length := Nat.mul_le_mul_right _ hle
      _ = (acc + 1) * (base.pow xs.length * base) := by
        rw [Nat.mul_assoc, Nat.mul_comm base]
      _ = (acc + 1) * base.pow (x :: xs).length := rfl

theorem readOn_lt_of_lt {base a b : Nat} {xs ys : List Nat} (hab : a < b)
    (hlen : xs.length = ys.length) (hxs : ∀ x ∈ xs, x < base) (hys : ∀ y ∈ ys, y < base) :
    readOn base a xs < readOn base b ys := by
  induction xs generalizing ys a b with
  | nil =>
    have hnil : ys = [] := List.length_eq_zero_iff.1 hlen.symm
    rw [hnil]
    exact hab
  | cons x xs ih =>
    obtain ⟨y, ys, rfl⟩ := List.exists_cons_of_length_eq_add_one hlen.symm
    have hx := hxs x (List.mem_cons_self ..)
    have hy := hys y (List.mem_cons_self ..)
    have hnext : a * base + x < b * base + y := (two_parts_lt_iff hx hy).2 (Or.inl hab)
    apply ih hnext
    · simpa using hlen
    · exact fun z hz => hxs z (List.mem_cons_of_mem _ hz)
    · exact fun z hz => hys z (List.mem_cons_of_mem _ hz)

/-- Numbers of equally many digits compare as their digits do, the weightiest first. -/
theorem readOn_lt_iff {base acc : Nat} {xs ys : List Nat} (hlen : xs.length = ys.length)
    (hxs : ∀ x ∈ xs, x < base) (hys : ∀ y ∈ ys, y < base) :
    readOn base acc xs < readOn base acc ys ↔ xs < ys := by
  induction xs generalizing ys acc with
  | nil =>
    have hnil : ys = [] := List.length_eq_zero_iff.1 hlen.symm
    subst hnil
    simp [readOn]
  | cons x xs ih =>
    obtain ⟨y, ys, rfl⟩ := List.exists_cons_of_length_eq_add_one hlen.symm
    have htail : xs.length = ys.length := by simpa using hlen
    have hxs' : ∀ z ∈ xs, z < base := fun z hz => hxs z (List.mem_cons_of_mem _ hz)
    have hys' : ∀ z ∈ ys, z < base := fun z hz => hys z (List.mem_cons_of_mem _ hz)
    show readOn base (acc * base + x) xs < readOn base (acc * base + y) ys ↔ _
    rw [List.cons_lt_cons_iff]
    rcases Nat.lt_trichotomy x y with hlt | rfl | hgt
    · have hnum := readOn_lt_of_lt (Nat.add_lt_add_left hlt (acc * base)) htail hxs' hys'
      exact iff_of_true hnum (Or.inl hlt)
    · rw [ih htail hxs' hys']
      constructor
      · intro h
        exact Or.inr ⟨rfl, h⟩
      · rintro (h | ⟨-, h⟩)
        · exact absurd h (Nat.lt_irrefl x)
        · exact h
    · have hnum := readOn_lt_of_lt (Nat.add_lt_add_left hgt (acc * base)) htail.symm hys' hxs'
      refine iff_of_false (Nat.lt_asymm hnum) ?_
      rintro (h | ⟨h, -⟩) <;> omega

/-! ### Addresses -/

namespace Address

/-- The octets of an address, or the groups of an IPv6 address. -/
def parts : Address → List Nat
  | .mac m => m.octets.map (·.toNat)
  | .ipv4 ip => [ip.o0, ip.o1, ip.o2, ip.o3].map (·.toNat)
  | .ipv6 ip => ip.groups.map (·.toNat)

def base : Address → Nat
  | .mac _ | .ipv4 _ => 256
  | .ipv6 _ => 65536

/-- MAC before IPv4 before IPv6. -/
def kindNumber : Address → Nat
  | .mac _ => 0
  | .ipv4 _ => 1
  | .ipv6 _ => 2

/-- What decides about the place of an address in the order, the weightiest first. -/
def place (a : Address) : List Nat := a.kindNumber :: a.parts

theorem parts_lt_base (a : Address) : ∀ x ∈ a.parts, x < a.base := by
  intro x hx
  cases a with
  | mac m =>
    obtain ⟨o, -, rfl⟩ := List.mem_map.1 hx
    exact o.toNat_lt
  | ipv4 ip =>
    obtain ⟨o, -, rfl⟩ := List.mem_map.1 hx
    exact o.toNat_lt
  | ipv6 ip =>
    obtain ⟨g, -, rfl⟩ := List.mem_map.1 hx
    exact g.toNat_lt

theorem rank_eq (a : Address) : a.rank = a.kindNumber * perKind + readOn a.base 0 a.parts := by
  cases a with
  | mac m => simp only [rank, kindNumber, Nat.zero_mul, Nat.zero_add, readOn, parts, List.foldl_map,
      base, Mac.toNat]
  | ipv4 ip => simp only [rank, kindNumber, Nat.one_mul, readOn, parts, List.foldl_map, base,
      Ipv4.toNat]
  | ipv6 ip => simp only [rank, kindNumber, readOn, parts, List.foldl_map, base, Ipv6.toNat]

theorem readOn_parts_lt (a : Address) : readOn a.base 0 a.parts < perKind := by
  have hlt : readOn a.base 0 a.parts < (0 + 1) * a.base.pow a.parts.length :=
    readOn_lt_pow a.parts_lt_base
  have hroom : (0 + 1) * a.base.pow a.parts.length ≤ perKind := by
    cases a with
    | mac m => show 1 * 256 ^ 6 ≤ 2 ^ 128; decide
    | ipv4 ip => show 1 * 256 ^ 4 ≤ 2 ^ 128; decide
    | ipv6 ip => show 1 * 65536 ^ 8 ≤ 2 ^ 128; decide
  exact Nat.lt_of_lt_of_le hlt hroom

theorem rank_lt (a : Address) : a.rank < 3 * perKind := by
  have hnumber := a.readOn_parts_lt
  have hkind : a.kindNumber ≤ 2 := by cases a <;> simp [kindNumber]
  have hmul := Nat.mul_le_mul_right perKind hkind
  rw [rank_eq]
  omega

theorem rank_lt_iff {a b : Address} : a.rank < b.rank ↔ a.place < b.place := by
  have hsame : a.kindNumber = b.kindNumber →
      (readOn a.base 0 a.parts < readOn b.base 0 b.parts ↔ a.parts < b.parts) := by
    intro hk
    have hbase : a.base = b.base ∧ a.parts.length = b.parts.length := by
      cases a <;> cases b <;> simp [kindNumber] at hk
      all_goals exact ⟨rfl, rfl⟩
    rw [hbase.1]
    exact readOn_lt_iff hbase.2 (hbase.1 ▸ a.parts_lt_base) b.parts_lt_base
  rw [rank_eq, rank_eq, two_parts_lt_iff a.readOn_parts_lt b.readOn_parts_lt, place, place,
    List.cons_lt_cons_iff]
  exact or_congr_right (and_congr_right hsame)

theorem eq_of_place_eq {a b : Address} (h : a.place = b.place) : a = b := by
  have hparts : a.parts = b.parts := (List.cons.inj h).2
  cases a with
  | mac m =>
    cases b with
    | mac n =>
      simp only [parts, Mac.octets, List.map_cons, List.cons.injEq, UInt8.toNat_inj] at hparts
      obtain ⟨h0, h1, h2, h3, h4, h5, -⟩ := hparts
      rw [Address.mac.injEq, Mac.mk.injEq]
      exact ⟨h0, h1, h2, h3, h4, h5⟩
    | ipv4 | ipv6 => cases (List.cons.inj h).1
  | ipv4 ip =>
    cases b with
    | ipv4 iq =>
      simp only [parts, List.map_cons, List.cons.injEq, UInt8.toNat_inj] at hparts
      obtain ⟨h0, h1, h2, h3, -⟩ := hparts
      rw [Address.ipv4.injEq, Ipv4.mk.injEq]
      exact ⟨h0, h1, h2, h3⟩
    | mac | ipv6 => cases (List.cons.inj h).1
  | ipv6 ip =>
    cases b with
    | ipv6 iq =>
      simp only [parts, Ipv6.groups, List.map_cons, List.cons.injEq, UInt16.toNat_inj] at hparts
      obtain ⟨h0, h1, h2, h3, h4, h5, h6, h7, -⟩ := hparts
      rw [Address.ipv6.injEq, Ipv6.mk.injEq]
      exact ⟨h0, h1, h2, h3, h4, h5, h6, h7⟩
    | mac | ipv4 => cases (List.cons.inj h).1

end Address

/-! ### Keys -/

namespace Key

/-- What decides about the place of a key in the order, the weightiest first. -/
def place (k : Key) : List Nat := k.vid.number :: k.address.place

theorem rank_lt_iff {k l : Key} : k.rank < l.rank ↔ k.place < l.place := by
  rw [rank, rank, two_parts_lt_iff k.address.rank_lt l.address.rank_lt, Address.rank_lt_iff, place,
    place, List.cons_lt_cons_iff]

theorem eq_of_rank_eq {k l : Key} (h : k.rank = l.rank) : k = l := by
  have hkl : ¬ k.place < l.place := mt rank_lt_iff.2 (by omega)
  have hlk : ¬ l.place < k.place := mt rank_lt_iff.2 (by omega)
  have hplace : k.place = l.place := List.le_antisymm hlk hkl
  obtain ⟨hvid, haddress⟩ := List.cons.inj hplace
  rw [Key.mk.injEq]
  exact ⟨Vid.ext hvid, Address.eq_of_place_eq haddress⟩

end Key

end VlanBridge
