import VlanBridge.PortSet
/-!
# Sets of ports in machine words

A machine holds a set of ports as four words of 64 bits, finds the word and the bit of a port's number,
and stops at a number that has none. Here each access is made as the machine makes it and may end in a
`Fault`; the lemmas say that an access by the number of a slot does not, and what it comes to.
-/

namespace VlanBridge

/-- An access that does not fit, which stops the machine. -/
inductive Fault where
  | index (n size : Nat)
  | slice (start stop length : Nat)
  /-- More is taken away than there is. -/
  | difference (n m : Nat)
  /-- A row is copied over a longer or a shorter one. -/
  | copy (length source : Nat)
  deriving DecidableEq, Repr

/-- What comes of some accesses. -/
abbrev Access := Except Fault

/-- Uses a number as an index. -/
def Access.index (n size : Nat) : Access (Fin size) :=
  if h : n < size then pure ⟨n, h⟩ else throw (.index n size)

@[simp] theorem Access.index_val {size : Nat} (i : Fin size) : Access.index i.val size = pure i := by
  simp [Access.index]

theorem Access.index_of_lt {n size : Nat} (h : n < size) : Access.index n size = pure ⟨n, h⟩ := by
  simp [Access.index, h]

theorem Access.index_of_le {n size : Nat} (h : size ≤ n) :
    Access.index n size = throw (.index n size) := by
  simp [Access.index, Nat.not_lt.2 h]

namespace PortSet

def word (s : PortSet) (w : Nat) : BitVec 64 := s.bits.extractLsb' (64 * w) 64

/-- Puts another word in the place of one. -/
def withWord (s : PortSet) (w : Nat) (new : BitVec 64) : PortSet :=
  ⟨(s.bits &&& ~~~((BitVec.allOnes 64).setWidth maxPorts <<< (64 * w)))
    ||| (new.setWidth maxPorts <<< (64 * w))⟩

def wordAt (s : PortSet) (w : Nat) : Access (BitVec 64) := do
  let w ← Access.index w 4
  return s.word w.val

/-- The word of a number and the bit in it; a number that names no slot has none. -/
def locate (n : Nat) : Access (Nat × BitVec 64) := do
  let n ← Access.index n maxPorts
  return (n.val / 64, BitVec.twoPow 64 (n.val % 64))

def testAt (s : PortSet) (n : Nat) : Access Bool := do
  let (w, mask) ← locate n
  let bits ← s.wordAt w
  return bits &&& mask != 0

def insertAt (s : PortSet) (n : Nat) : Access PortSet := do
  let (w, mask) ← locate n
  let bits ← s.wordAt w
  return s.withWord w (bits ||| mask)

def eraseAt (s : PortSet) (n : Nat) : Access PortSet := do
  let (w, mask) ← locate n
  let bits ← s.wordAt w
  return s.withWord w (bits &&& ~~~mask)

def setAt (s : PortSet) (n : Nat) (present : Bool) : Access PortSet :=
  if present then s.insertAt n else s.eraseAt n

/-- Leaves just one number: first the other words are cleared and the other bits of its own. -/
def storeSingleAt (s : PortSet) (n : Nat) : Access PortSet := do
  let (w, mask) ← locate n
  let kept := (∅ : PortSet).withWord w (s.word w &&& mask)
  let bits ← kept.wordAt w
  return kept.withWord w (bits ||| mask)

variable {s : PortSet} {i : PortIndex}

theorem mem_iff_word : i ∈ s ↔ (s.word (i.val / 64)).getLsbD (i.val % 64) = true := by
  have hlt : i.val % 64 < 64 := Nat.mod_lt _ (by decide)
  have hsplit := Nat.div_add_mod i.val 64
  rw [mem_iff, word, BitVec.getLsbD_extractLsb', decide_eq_true hlt, Bool.true_and, hsplit]

theorem mem_withWord {w : Nat} (new : BitVec 64) :
    i ∈ s.withWord w new ↔
      if i.val / 64 = w then new.getLsbD (i.val % 64) = true else i ∈ s := by
  have hi := i.isLt
  have hsplit := Nat.div_add_mod i.val 64
  have hmod : i.val % 64 < 64 := Nat.mod_lt _ (by decide)
  simp only [mem_iff, withWord, BitVec.getLsbD_or, BitVec.getLsbD_and, BitVec.getLsbD_not,
    BitVec.getLsbD_shiftLeft, BitVec.getLsbD_setWidth, BitVec.getLsbD_allOnes, hi, decide_true,
    Bool.true_and]
  by_cases hw : i.val / 64 = w
  · subst hw
    have hplace : i.val - 64 * (i.val / 64) = i.val % 64 := by omega
    have hnot : ¬ i.val < 64 * (i.val / 64) := by omega
    have hin : i.val % 64 < maxPorts := by omega
    simp only [hplace, hnot, hmod, hin, decide_true, decide_false, Bool.not_false, Bool.true_and,
      Bool.not_true, Bool.and_false, Bool.false_or, if_true]
  · -- a bit of another word is below the place of the new one or beyond it
    have hoff : i.val < 64 * w ∨ 64 ≤ i.val - 64 * w := by
      rcases Nat.lt_or_gt_of_ne hw with hlt | hgt
      · left
        omega
      · right
        omega
    rw [if_neg hw]
    rcases hoff with hlt | hge
    · simp only [hlt, decide_true, Bool.not_true, Bool.false_and, Bool.not_false, Bool.and_true,
        Bool.or_false]
    · have hnew : new.getLsbD (i.val - 64 * w) = false := BitVec.getLsbD_of_ge _ _ hge
      simp only [hnew, Nat.not_lt.2 hge, decide_false, Bool.and_false, Bool.not_false, Bool.and_true,
        Bool.or_false]

theorem locate_val (i : PortIndex) :
    locate i.val = pure (i.val / 64, BitVec.twoPow 64 (i.val % 64)) := by
  simp [locate]

theorem locate_of_le {n : Nat} (h : maxPorts ≤ n) : locate n = throw (.index n maxPorts) := by
  simp only [locate, Access.index_of_le h]
  rfl

theorem wordAt_of_lt {w : Nat} (h : w < 4) : s.wordAt w = pure (s.word w) := by
  simp only [wordAt, Access.index_of_lt h, pure_bind]

theorem word_lt (i : PortIndex) : i.val / 64 < 4 := Nat.div_lt_of_lt_mul i.isLt

/-! ### Single slots -/

theorem getLsbD_mask (i j : PortIndex) (h : j.val / 64 = i.val / 64) :
    (BitVec.twoPow 64 (i.val % 64)).getLsbD (j.val % 64) = decide (j = i) := by
  have hmod : i.val % 64 < 64 := Nat.mod_lt _ (by decide)
  have hi := Nat.div_add_mod i.val 64
  have hj := Nat.div_add_mod j.val 64
  rw [BitVec.getLsbD_twoPow, decide_eq_true hmod, Bool.true_and, decide_eq_decide, Fin.ext_iff]
  constructor
  · intro hsame
    rw [← hi, ← hj, h, hsame]
  · intro hsame
    rw [hsame]

@[simp] theorem testAt_val : s.testAt i.val = pure (decide (i ∈ s)) := by
  have hmod : i.val % 64 < 64 := Nat.mod_lt _ (by decide)
  simp only [testAt, locate_val, pure_bind, wordAt_of_lt (word_lt i), BitVec.and_twoPow, mem_iff_word]
  congr 1
  cases (s.word (i.val / 64)).getLsbD (i.val % 64) with
  | false => rfl
  | true =>
    have hbit : (BitVec.twoPow 64 (i.val % 64)).getLsbD (i.val % 64) = true := by
      rw [getLsbD_mask i i rfl, decide_eq_true rfl]
    have hne : BitVec.twoPow 64 (i.val % 64) ≠ 0#64 := by
      intro hzero
      rw [hzero, BitVec.getLsbD_zero] at hbit
      cases hbit
    simpa using hne

@[simp] theorem insertAt_val : s.insertAt i.val = pure (s.insert i) := by
  simp only [insertAt, locate_val, pure_bind, wordAt_of_lt (word_lt i)]
  congr 1
  ext j
  rw [mem_withWord, mem_insert]
  split
  · rename_i hword
    rw [BitVec.getLsbD_or, getLsbD_mask i j hword, Bool.or_eq_true, decide_eq_true_eq,
      mem_iff_word (i := j), hword, or_comm]
  · rename_i hword
    have hne : j ≠ i := by
      rintro rfl
      exact hword rfl
    simp only [hne, false_or]

@[simp] theorem eraseAt_val : s.eraseAt i.val = pure (s.erase i) := by
  simp only [eraseAt, locate_val, pure_bind, wordAt_of_lt (word_lt i)]
  congr 1
  ext j
  have hmod : j.val % 64 < 64 := Nat.mod_lt _ (by decide)
  rw [mem_withWord, mem_erase]
  split
  · rename_i hword
    rw [BitVec.getLsbD_and, BitVec.getLsbD_not, decide_eq_true hmod, Bool.true_and,
      getLsbD_mask i j hword, Bool.and_eq_true, mem_iff_word (i := j), hword, and_comm,
      Bool.not_eq_true', decide_eq_false_iff_not]
  · rename_i hword
    have hne : j ≠ i := by
      rintro rfl
      exact hword rfl
    simp only [hne, ne_eq, not_false_eq_true, true_and]

@[simp] theorem setAt_val (present : Bool) : s.setAt i.val present = pure (s.set i present) := by
  cases present <;> simp [setAt, set]

@[simp] theorem storeSingleAt_val : s.storeSingleAt i.val = pure (singleton i) := by
  simp only [storeSingleAt, locate_val, pure_bind, wordAt_of_lt (word_lt i)]
  congr 1
  ext j
  rw [mem_withWord, mem_singleton]
  split
  · rename_i hword
    rw [BitVec.getLsbD_or, Bool.or_eq_true, ← hword, ← mem_iff_word, mem_withWord, if_pos rfl,
      BitVec.getLsbD_and, hword, getLsbD_mask i j hword, Bool.and_eq_true, decide_eq_true_eq]
    exact ⟨fun h => h.elim And.right id, Or.inr⟩
  · rename_i hword
    rw [mem_withWord, if_neg hword]
    refine ⟨fun h => absurd h (not_mem_empty j), ?_⟩
    rintro rfl
    exact absurd rfl hword

theorem testAt_of_le {n : Nat} (h : maxPorts ≤ n) : s.testAt n = throw (.index n maxPorts) := by
  simp only [testAt, locate_of_le h]
  rfl

/-! ### Going through a set -/

/-- The place of the lowest bit that is set. -/
def lowest (bits : BitVec 64) : Nat := ((List.range 64).find? (bits.getLsbD ·)).getD 64

/-- Looks for a bit in a word and in the words that are left after it. -/
def scan (s : PortSet) : (left w : Nat) → BitVec 64 → Access Nat
  | left, w, bits =>
    if bits != 0 then return 64 * w + lowest bits
    else match left with
      | 0 => return maxPorts
      | left + 1 => do
        let bits ← s.wordAt (w + 1)
        s.scan left (w + 1) bits

/-- The first member from a number on, or `maxPorts` if there is none. -/
def nextAt (s : PortSet) (start : Nat) : Access Nat :=
  if maxPorts ≤ start then return maxPorts
  else do
    let bits ← s.wordAt (start / 64)
    s.scan (3 - start / 64) (start / 64) (bits &&& BitVec.allOnes 64 <<< (start % 64))

/-- The members from a number on, so many at most. -/
def listAt (s : PortSet) : (limit start : Nat) → Access (List Nat)
  | 0, _ => return []
  | limit + 1, start => do
    let found ← s.nextAt start
    if found = maxPorts then return []
    else do
      let rest ← s.listAt limit (found + 1)
      return found :: rest

def membersAt (s : PortSet) : Access (List Nat) := s.listAt (maxPorts + 1) 0

/-- The first member of a set from a number on is the given number, or it has none. -/
structure IsNext (s : PortSet) (start r : Nat) : Prop where
  found : r = maxPorts ∨ ∃ i ∈ s, i.val = r ∧ start ≤ r
  least : ∀ i ∈ s, start ≤ i.val → r ≤ i.val

theorem lowest_spec {bits : BitVec 64} (h : (bits != 0) = true) :
    bits.getLsbD (lowest bits) = true ∧ lowest bits < 64 ∧
      ∀ k, bits.getLsbD k = true → lowest bits ≤ k := by
  have hsome : ((List.range 64).find? (bits.getLsbD ·)).isSome := by
    rw [List.find?_isSome]
    refine Classical.byContradiction fun hnone => ?_
    have hzero : bits = 0#64 := by
      apply BitVec.eq_of_getLsbD_eq
      intro k hk
      rw [BitVec.getLsbD_zero, ← Bool.not_eq_true]
      exact fun hbit => hnone ⟨k, List.mem_range.2 hk, hbit⟩
    rw [hzero] at h
    cases h
  obtain ⟨m, hm⟩ := Option.isSome_iff_exists.1 hsome
  obtain ⟨hbit, hlt, hleast⟩ := List.find?_range_eq_some.1 hm
  have hlowest : lowest bits = m := by
    rw [lowest, hm, Option.getD_some]
  rw [hlowest]
  refine ⟨hbit, List.mem_range.1 hlt, fun k hk => Nat.le_of_not_lt fun hbelow => ?_⟩
  have hoff := hleast k hbelow
  rw [hk] at hoff
  cases hoff

/-- A search that starts at a number has come to a word: the bits are those of the members that it
looks for, and none of them is in the words before. -/
structure Pending (s : PortSet) (start w : Nat) (bits : BitVec 64) : Prop where
  bits : ∀ k < 64, bits.getLsbD k = (decide (start ≤ 64 * w + k) && s.bits.getLsbD (64 * w + k))
  before : ∀ i ∈ s, start ≤ i.val → 64 * w ≤ i.val

namespace Pending

variable {start w : Nat} {bits : BitVec 64}

theorem getLsbD_eq_true (h : s.Pending start w bits) (hi : i ∈ s) (hle : start ≤ i.val)
    (hlt : i.val < 64 * (w + 1)) : bits.getLsbD (i.val - 64 * w) = true := by
  have hge := h.before i hi hle
  have hplace : 64 * w + (i.val - 64 * w) = i.val := by omega
  rw [h.bits _ (by omega), hplace, decide_eq_true hle, Bool.true_and]
  exact hi

theorem isNext (h : s.Pending start w bits) (hw : w < 4) (hbits : (bits != 0) = true) :
    s.IsNext start (64 * w + lowest bits) := by
  obtain ⟨hbit, hlt, hleast⟩ := lowest_spec hbits
  have hboth := h.bits _ hlt
  rw [hbit, eq_comm, Bool.and_eq_true, decide_eq_true_eq] at hboth
  have hmax : 64 * w + lowest bits < 256 := by omega
  refine ⟨Or.inr ⟨⟨64 * w + lowest bits, hmax⟩, hboth.2, rfl, hboth.1⟩, fun i hi hle => ?_⟩
  rcases Nat.lt_or_ge i.val (64 * (w + 1)) with hin | hbeyond
  · have hfirst := hleast _ (h.getLsbD_eq_true hi hle hin)
    have hge := h.before i hi hle
    omega
  · omega

theorem beyond (h : s.Pending start w bits) (hbits : ¬ (bits != 0) = true) (hi : i ∈ s)
    (hle : start ≤ i.val) : 64 * (w + 1) ≤ i.val := by
  refine Nat.le_of_not_lt fun hlt => ?_
  have hbit := h.getLsbD_eq_true hi hle hlt
  have hzero : bits = 0#64 := by simpa using hbits
  rw [hzero, BitVec.getLsbD_zero] at hbit
  cases hbit

end Pending

theorem scan_spec {start left w : Nat} {bits : BitVec 64} (hleft : w + left = 3)
    (hstart : start < 64 * (w + 1)) (h : s.Pending start w bits) :
    ∃ r, s.scan left w bits = pure r ∧ s.IsNext start r := by
  -- on the words that are left; that nothing was passed over is `Pending`
  induction left generalizing w bits with
  | zero =>
    unfold scan
    by_cases hbits : (bits != 0) = true
    · rw [if_pos hbits]
      exact ⟨_, rfl, h.isNext (by omega) hbits⟩
    · rw [if_neg hbits]
      refine ⟨maxPorts, rfl, Or.inl rfl, fun i hi hle => ?_⟩
      have hbeyond := h.beyond hbits hi hle
      have hlt : i.val < 256 := i.isLt
      omega
  | succ left ih =>
    unfold scan
    by_cases hbits : (bits != 0) = true
    · rw [if_pos hbits]
      exact ⟨_, rfl, h.isNext (by omega) hbits⟩
    · rw [if_neg hbits]
      simp only [wordAt_of_lt (show w + 1 < 4 by omega), pure_bind]
      refine ih (by omega) (by omega) ⟨fun k hk => ?_, fun i hi hle => h.beyond hbits hi hle⟩
      rw [word, BitVec.getLsbD_extractLsb', decide_eq_true hk,
        decide_eq_true (show start ≤ 64 * (w + 1) + k by omega)]

theorem nextAt_spec (s : PortSet) (start : Nat) :
    ∃ r, s.nextAt start = pure r ∧ s.IsNext start r := by
  unfold nextAt
  split
  · rename_i hle
    refine ⟨maxPorts, rfl, Or.inl rfl, fun i _ hi => ?_⟩
    have hlt := i.isLt
    omega
  · rename_i hlt
    have hword : start / 64 < 4 := Nat.div_lt_of_lt_mul (Nat.lt_of_not_le hlt)
    have hsplit := Nat.div_add_mod start 64
    rw [wordAt_of_lt hword, pure_bind]
    refine scan_spec (by omega) (by omega) ⟨fun k hk => ?_, fun i _ hi => by omega⟩
    rw [BitVec.getLsbD_and, BitVec.getLsbD_shiftLeft, BitVec.getLsbD_allOnes, word,
      BitVec.getLsbD_extractLsb']
    by_cases hle : start ≤ 64 * (start / 64) + k
    · have hnot : ¬ k < start % 64 := by omega
      have hin : k - start % 64 < 64 := by omega
      simp [hk, hle, hnot, hin]
    · have hbelow : k < start % 64 := by omega
      simp [hle, hbelow]

theorem filter_eq_cons {is : List PortIndex} (hsorted : is.Pairwise (· < ·)) {start : Nat}
    (hi : i ∈ is) (hstart : start ≤ i.val) (hleast : ∀ j ∈ is, start ≤ j.val → i.val ≤ j.val) :
    is.filter (start ≤ ·.val) = i :: is.filter (i.val + 1 ≤ ·.val) := by
  induction hsorted with
  | nil => cases hi
  | @cons j js hj hsorted ih =>
    rcases List.mem_cons.1 hi with rfl | hi
    · have hrest : ∀ k ∈ js, (start ≤ k.val) = (i.val + 1 ≤ k.val) := by
        intro k hk
        have hlt : i.val < k.val := hj k hk
        exact propext ⟨fun _ => hlt, fun _ => by omega⟩
      rw [List.filter_cons_of_pos (by simpa using hstart), List.filter_cons_of_neg (by simp)]
      congr 1
      exact List.filter_congr fun k hk => by simp only [hrest k hk]
    · have hlt : j.val < i.val := hj i hi
      have hbefore : ¬ start ≤ j.val := fun hle => by
        have hle := hleast j List.mem_cons_self hle
        omega
      rw [List.filter_cons_of_neg (by simpa using hbefore), List.filter_cons_of_neg (by simp; omega)]
      exact ih hi fun k hk => hleast k (List.mem_cons_of_mem _ hk)

theorem listAt_spec (s : PortSet) {limit start : Nat} (hlimit : maxPorts < limit + start) :
    s.listAt limit start = pure ((s.toList.filter (start ≤ ·.val)).map (·.val)) := by
  have hnone : (∀ i ∈ s, ¬ start ≤ i.val) → s.toList.filter (start ≤ ·.val) = [] := by
    intro h
    refine List.filter_eq_nil_iff.2 fun i hi => ?_
    simpa using h i (mem_toList.1 hi)
  -- each step goes on by one slot at least, so that the limit is never what ends the list
  induction limit generalizing start with
  | zero =>
    rw [hnone fun i _ => by have hlt := i.isLt; omega]
    rfl
  | succ limit ih =>
    obtain ⟨r, hr, hnext⟩ := s.nextAt_spec start
    simp only [listAt, hr, pure_bind]
    split
    · rename_i hend
      rw [hnone fun i hi hle => ?_]
      · rfl
      · have hle := hnext.least i hi hle
        have hlt := i.isLt
        omega
    · rename_i hfound
      obtain ⟨i, hi, rfl, hle⟩ := hnext.found.resolve_left hfound
      rw [ih (by omega) ?_, filter_eq_cons s.toList_ascending (mem_toList.2 hi) hle fun j hj =>
        hnext.least j (mem_toList.1 hj)]
      · rfl
      · intro h
        refine List.filter_eq_nil_iff.2 fun i hi => ?_
        simpa using h i (mem_toList.1 hi)

/-- Going through a set ends, stays within the words, and gives the members in their order. -/
@[simp] theorem membersAt_eq (s : PortSet) : s.membersAt = pure s.toNats := by
  have hall : s.toList.filter (0 ≤ ·.val) = s.toList := by
    simp
  rw [membersAt, listAt_spec s (by decide), hall, toNats]

end PortSet

end VlanBridge
