import Mathlib.Algebra.GroupWithZero.Nat
import Mathlib.Data.Finset.Card
import Mathlib.Data.Fintype.Basic
import Mathlib.Order.Bounds.Basic
import VlanBridge.Proofs.PortWords
/-!
# The algebra of sets of ports

A set of ports stands for the finite set of the slots whose bits a test finds set. What a machine does with
its words, one after the other, comes to what the sets do: joining and cutting, counting, the lowest slot
that is a member or is none, and whatever calls are made, one at a time, to a set that several use.
-/

namespace VlanBridge

namespace PortSet

variable {s t : PortSet} {i : PortIndex}

/-! ### Words -/

/-- The four words, that of the lowest slots first. -/
def words (s : PortSet) : List (BitVec 64) := (List.range 4).map s.word

/-- Goes through so many words from one on, and puts in the place of each what it and the word of another
set come to. -/
def eachWord (f : Nat → BitVec 64 → BitVec 64 → BitVec 64) (t : PortSet) :
    (left w : Nat) → PortSet → PortSet
  | 0, _, s => s
  | left + 1, w, s => eachWord f t left (w + 1) (s.withWord w (f w (s.word w) (t.word w)))

/-- Makes a set of the words of two. -/
def zipWords (f : BitVec 64 → BitVec 64 → BitVec 64) (s t : PortSet) : PortSet :=
  eachWord (fun _ => f) t 4 0 s

theorem getLsbD_word {w k : Nat} (hk : k < 64) :
    (s.word w).getLsbD k = s.bits.getLsbD (64 * w + k) := by
  rw [word, BitVec.getLsbD_extractLsb', decide_eq_true hk, Bool.true_and]

theorem word_withWord_of_ne {w v : Nat} (h : v ≠ w) (new : BitVec 64) :
    (s.withWord w new).word v = s.word v := by
  apply BitVec.eq_of_getLsbD_eq
  intro k hk
  rw [getLsbD_word hk, getLsbD_word hk]
  rcases Nat.lt_or_ge (64 * v + k) maxPorts with hlt | hge
  · have hplace : (64 * v + k) / 64 = v := by omega
    have hmem := mem_withWord (s := s) (i := ⟨64 * v + k, hlt⟩) (w := w) new
    rw [if_neg (by simpa only [hplace] using h)] at hmem
    exact Bool.eq_iff_iff.2 hmem
  · rw [BitVec.getLsbD_of_ge _ _ hge, BitVec.getLsbD_of_ge _ _ hge]

theorem mem_eachWord (f : Nat → BitVec 64 → BitVec 64 → BitVec 64) (t : PortSet) (left w : Nat)
    (s : PortSet) : i ∈ eachWord f t left w s ↔
      if w ≤ i.val / 64 ∧ i.val / 64 < w + left then
        (f (i.val / 64) (s.word (i.val / 64)) (t.word (i.val / 64))).getLsbD (i.val % 64) = true
      else i ∈ s := by
  induction left generalizing w s with
  | zero =>
    rw [if_neg (by omega)]
    rfl
  | succ left ih =>
    rw [eachWord, ih]
    by_cases hw : i.val / 64 = w
    · rw [if_neg (by omega), if_pos (by omega), mem_withWord, if_pos hw, hw]
    · rw [word_withWord_of_ne hw, mem_withWord, if_neg hw]
      exact iff_of_eq (if_congr (by omega) rfl rfl)

theorem mem_zipWords {f : BitVec 64 → BitVec 64 → BitVec 64} : i ∈ zipWords f s t ↔
    (f (s.word (i.val / 64)) (t.word (i.val / 64))).getLsbD (i.val % 64) = true := by
  have hword := word_lt i
  rw [zipWords, mem_eachWord, if_pos ⟨Nat.zero_le _, by omega⟩]

theorem word_withWord {w : Nat} (hw : w < 4) (new : BitVec 64) : (s.withWord w new).word w = new := by
  apply BitVec.eq_of_getLsbD_eq
  intro k hk
  have hlt : 64 * w + k < 256 := by omega
  have hword : (64 * w + k) / 64 = w := by omega
  have hbit : (64 * w + k) % 64 = k := by omega
  have hmem := mem_withWord (s := s) (i := ⟨64 * w + k, hlt⟩) (w := w) new
  rw [if_pos hword, hbit] at hmem
  rw [getLsbD_word hk]
  exact Bool.eq_iff_iff.2 hmem

/-- A word is put in its place among the four. -/
theorem words_withWord {w : Nat} (hw : w < 4) (new : BitVec 64) :
    (s.withWord w new).words = s.words.set w new := by
  refine List.ext_getElem ?_ fun v hv _ => ?_
  · simp only [words, List.length_map, List.length_set]
  · simp only [words, List.getElem_set, List.getElem_map, List.getElem_range]
    split
    · rename_i hvw
      rw [← hvw, word_withWord (hvw ▸ hw)]
    · rename_i hvw
      exact word_withWord_of_ne (Ne.symm hvw) new

theorem words_inj : s.words = t.words ↔ s = t := by
  constructor
  · intro h
    have hword : ∀ w < 4, s.word w = t.word w := by
      intro w hw
      exact List.map_inj_left.1 h w (List.mem_range.2 hw)
    ext i
    rw [mem_iff_word, mem_iff_word, hword _ (word_lt i)]
  · rintro rfl
    rfl

/-! ### Sets word by word -/

/-- Sets every bit. -/
def fillWords (s : PortSet) : PortSet := zipWords (fun _ _ => BitVec.allOnes 64) s s

/-- Clears every bit. -/
def zeroWords (s : PortSet) : PortSet := zipWords (fun _ _ => 0#64) s s

/-- Keeps what is in both, for a call as for the operator. -/
def andWords (s t : PortSet) : PortSet := zipWords (· &&& ·) s t

/-- Adds what is in the other, for a call as for the operator. -/
def orWords (s t : PortSet) : PortSet := zipWords (· ||| ·) s t

def andNotWords (s t : PortSet) : PortSet := zipWords (fun a b => a &&& ~~~b) s t

def notWords (s : PortSet) : PortSet := zipWords (fun a _ => ~~~a) s s

/-- Writes the words of one set over those of another. -/
def copyWords (s t : PortSet) : PortSet := zipWords (fun _ b => b) s t

variable (s t)

theorem fillWords_eq : s.fillWords = full := by
  ext i
  have hbit : i.val % 64 < 64 := Nat.mod_lt _ (by decide)
  simp only [fillWords, mem_zipWords, BitVec.getLsbD_allOnes, hbit, decide_true, mem_full]

theorem zeroWords_eq : s.zeroWords = ∅ := by
  ext i
  simp only [zeroWords, mem_zipWords, BitVec.getLsbD_zero, Bool.false_eq_true, not_mem_empty]

theorem andWords_eq : s.andWords t = s ∩ t := by
  ext i
  simp only [andWords, mem_zipWords, BitVec.getLsbD_and, Bool.and_eq_true, ← mem_iff_word, mem_inter]

theorem orWords_eq : s.orWords t = s ∪ t := by
  ext i
  simp only [orWords, mem_zipWords, BitVec.getLsbD_or, Bool.or_eq_true, ← mem_iff_word, mem_union]

theorem andNotWords_eq : s.andNotWords t = s \ t := by
  ext i
  have hbit : i.val % 64 < 64 := Nat.mod_lt _ (by decide)
  simp only [andNotWords, mem_zipWords, BitVec.getLsbD_and, BitVec.getLsbD_not, hbit, decide_true,
    Bool.true_and, Bool.and_eq_true, Bool.not_eq_true', ← Bool.not_eq_true, ← mem_iff_word, mem_sdiff]

theorem notWords_eq : s.notWords = s.complement := by
  ext i
  have hbit : i.val % 64 < 64 := Nat.mod_lt _ (by decide)
  simp only [notWords, mem_zipWords, BitVec.getLsbD_not, hbit, decide_true, Bool.true_and,
    Bool.not_eq_true', ← Bool.not_eq_true, ← mem_iff_word, mem_complement]

theorem copyWords_eq : s.copyWords t = t := by
  ext i
  simp only [copyWords, mem_zipWords, ← mem_iff_word]

variable {s t}

/-! ### Questions word by word -/

def isEmptyWords (s : PortSet) : Bool := s.words.all (· == 0#64)

/-- How many bits of a word are set. -/
def ones (bits : BitVec 64) : Nat := (List.range 64).countP (bits.getLsbD ·)

def countWords (s : PortSet) : Nat := (s.words.map ones).sum

def isSubsetWords (s t : PortSet) : Bool := (s.andNotWords t).isEmptyWords

/-- The lowest bit that is clear in so many words from one on. -/
def freeFrom (s : PortSet) : (left w : Nat) → Option Nat
  | 0, _ => none
  | left + 1, w =>
    if s.word w != BitVec.allOnes 64 then some (64 * w + lowest (~~~(s.word w)))
    else s.freeFrom left (w + 1)

def firstFreeWords (s : PortSet) : Option Nat := s.freeFrom 4 0

theorem isEmptyWords_eq (s : PortSet) : s.isEmptyWords = s.isEmpty := by
  refine Bool.eq_iff_iff.2 ?_
  have hempty : s.isEmptyWords = true ↔ s.words = (∅ : PortSet).words := by
    have hzero : ∀ w, (∅ : PortSet).word w = 0#64 := by
      intro w
      apply BitVec.eq_of_getLsbD_eq
      intro k hk
      rw [getLsbD_word hk, BitVec.getLsbD_zero]
      exact BitVec.getLsbD_zero
    simp only [isEmptyWords, words, List.all_map, List.all_eq_true, Function.comp_apply, beq_iff_eq,
      List.map_inj_left, hzero]
  rw [hempty, words_inj, isEmpty_iff]

theorem isSubsetWords_eq (s t : PortSet) : s.isSubsetWords t = s.isSubset t := by
  rw [isSubsetWords, isEmptyWords_eq, andNotWords_eq, isSubset]

theorem count_eq_range (s : PortSet) : s.count = (List.range maxPorts).countP (s.bits.getLsbD ·) := by
  rw [← List.map_coe_finRange_eq_range, List.countP_map, count]
  refine List.countP_congr fun i _ => ?_
  simp [mem_iff]

theorem countWords_eq (s : PortSet) : s.countWords = s.count := by
  have hrows : List.range maxPorts =
      (List.range 4).flatMap fun w => (List.range 64).map fun k => 64 * w + k := by decide +kernel
  have hones : ∀ w, ones (s.word w) =
      ((List.range 64).map fun k => 64 * w + k).countP (s.bits.getLsbD ·) := by
    intro w
    rw [List.countP_map, ones]
    refine List.countP_congr fun k hk => ?_
    rw [getLsbD_word (List.mem_range.1 hk), Function.comp_apply]
  rw [count_eq_range, hrows, List.countP_flatMap, countWords, words, List.map_map]
  refine congrArg List.sum (List.map_congr_left fun w _ => ?_)
  exact hones w

theorem getLsbD_not_word : (~~~(s.word (i.val / 64))).getLsbD (i.val % 64) = true ↔ i ∉ s := by
  have hbit : i.val % 64 < 64 := Nat.mod_lt _ (by decide)
  rw [mem_iff_word, BitVec.getLsbD_not, decide_eq_true hbit, Bool.true_and, Bool.not_eq_true',
    Bool.not_eq_true]

/-- A word that is not full has a lowest slot that is free. -/
theorem exists_lowest_free {w : Nat} (hw : w < 4) (h : (s.word w != BitVec.allOnes 64) = true) :
    ∃ i : PortIndex, i.val = 64 * w + lowest (~~~(s.word w)) ∧ i.val / 64 = w ∧ i ∉ s ∧
      ∀ j : PortIndex, j.val / 64 = w → j ∉ s → i.val ≤ j.val := by
  have hsome : (~~~(s.word w) != 0#64) = true := by
    rw [bne_iff_ne] at h ⊢
    intro hzero
    rw [← BitVec.not_not (b := s.word w), hzero, BitVec.not_zero] at h
    exact h rfl
  obtain ⟨hset, hlt, hleast⟩ := lowest_spec hsome
  generalize lowest (~~~(s.word w)) = k at hset hlt hleast
  have hmax : 64 * w + k < 256 := by omega
  have hword : (64 * w + k) / 64 = w := by omega
  have hplace : (64 * w + k) % 64 = k := by omega
  refine ⟨⟨64 * w + k, hmax⟩, rfl, hword, ?_, fun j hj hout => ?_⟩
  · rw [← getLsbD_not_word]
    simpa only [hword, hplace] using hset
  · have hle := hleast (j.val % 64) (hj ▸ getLsbD_not_word.2 hout)
    show 64 * w + k ≤ j.val
    omega

theorem freeFrom_eq {left w : Nat} (hleft : w + left = 4) (h : ∀ i ∉ s, w ≤ i.val / 64) :
    s.freeFrom left w = s.firstFree?.map (·.val) := by
  -- on the words that are left; those before are full
  induction left generalizing w with
  | zero =>
    have hnone : s.firstFree? = none := by
      cases hfree : s.firstFree? with
      | none => rfl
      | some i =>
        have hle := h i (firstFree?_eq_some hfree)
        have hlt := word_lt i
        omega
    rw [hnone]
    rfl
  | succ left ih =>
    rw [freeFrom]
    split
    · rename_i hfull
      obtain ⟨i, hval, hword, hi, hleast⟩ := exists_lowest_free (by omega) hfull
      rw [firstFree?_of_forall_lt hi, ← hval]
      · rfl
      · intro j hlt
        refine Decidable.byContradiction fun hout => ?_
        have hlt : j.val < i.val := hlt
        have hfrom := h j hout
        have hle := hleast j (by omega) hout
        omega
    · rename_i hfull
      have hall : s.word w = BitVec.allOnes 64 := by simpa using hfull
      refine ih (by omega) fun i hi => Nat.lt_of_le_of_ne (h i hi) fun hw => ?_
      have hclear := getLsbD_not_word.2 hi
      rw [← hw, hall] at hclear
      simp at hclear

theorem firstFreeWords_eq (s : PortSet) : s.firstFreeWords = s.firstFree?.map (·.val) :=
  freeFrom_eq rfl fun _ _ => Nat.zero_le _

/-! ### The set of the members -/

/-- The slots whose bits a test finds set. -/
def members (s : PortSet) : Finset PortIndex :=
  Finset.univ.filter fun i => s.testAt i.val = pure true

@[simp] theorem mem_members : i ∈ s.members ↔ i ∈ s := by
  have hpure : (pure (decide (i ∈ s)) : Access Bool) = pure true ↔ i ∈ s :=
    ⟨fun h => of_decide_eq_true (Except.ok.inj h), fun h => congrArg Except.ok (decide_eq_true h)⟩
  rw [members, Finset.mem_filter_univ, testAt_val, hpure]

theorem members_inj : s.members = t.members ↔ s = t := by
  constructor
  · intro h
    ext i
    rw [← mem_members, h, mem_members]
  · rintro rfl
    rfl

theorem members_empty : (∅ : PortSet).members = ∅ := by
  ext i
  simp

theorem members_full : full.members = Finset.univ := by
  ext i
  simp

theorem members_insert : (s.insert i).members = Insert.insert i s.members := by
  ext j
  simp

theorem members_erase : (s.erase i).members = s.members.erase i := by
  ext j
  simp

theorem members_singleton : (singleton i).members = {i} := by
  ext j
  simp

theorem members_inter : (s ∩ t).members = s.members ∩ t.members := by
  ext i
  simp

theorem members_union : (s ∪ t).members = s.members ∪ t.members := by
  ext i
  simp

theorem members_sdiff : (s \ t).members = s.members \ t.members := by
  ext i
  simp

theorem members_complement : s.complement.members = s.membersᶜ := by
  ext i
  simp

theorem insert_empty (i : PortIndex) : (∅ : PortSet).insert i = singleton i := by
  ext j
  simp

theorem existsUnique_members (m : Finset PortIndex) : ∃! s : PortSet, s.members = m := by
  refine ⟨ofList ((List.finRange maxPorts).filter (· ∈ m)), ?_, fun t ht => ?_⟩
  · ext i
    simp [mem_ofList]
  · ext i
    rw [← mem_members, ht, mem_ofList]
    simp

theorem isEmpty_iff_members : s.isEmpty = true ↔ s.members = ∅ := by
  rw [isEmpty_iff, ← members_inj, members_empty]

theorem isSubset_iff_members : s.isSubset t = true ↔ s.members ⊆ t.members := by
  rw [isSubset_iff]
  exact forall_congr' fun i => by rw [mem_members, mem_members]

theorem count_eq_card (s : PortSet) : s.count = s.members.card := by
  have hmembers : s.members = Finset.univ.filter (· ∈ s) := by
    ext i
    simp
  rw [hmembers, count, List.countP_eq_length_filter]
  rfl

theorem firstFree?_eq_some_iff :
    s.firstFree? = some i ↔ IsLeast (↑(s.membersᶜ) : Set PortIndex) i := by
  constructor
  · intro h
    refine ⟨by simpa using firstFree?_eq_some h, fun j hj => Fin.not_lt.1 fun hlt => ?_⟩
    have hout : j ∉ s := by simpa using hj
    exact hout (mem_of_lt_firstFree? h hlt)
  · rintro ⟨hi, hleast⟩
    refine firstFree?_of_forall_lt (by simpa using hi) fun j hlt => ?_
    refine Decidable.byContradiction fun hj => ?_
    exact absurd (hleast (by simpa using hj)) (Fin.not_le.2 hlt)

theorem firstFree?_eq_none_iff : s.firstFree? = none ↔ s.members = Finset.univ := by
  simp [firstFree?, List.find?_eq_none, Finset.eq_univ_iff_forall]

/-- The lowest member is the lowest slot that the other members leave free. -/
theorem first?_eq (s : PortSet) : s.first? = s.complement.firstFree? := by
  simp [first?, firstFree?]

theorem first?_eq_some_iff : s.first? = some i ↔ IsLeast (↑s.members : Set PortIndex) i := by
  rw [first?_eq, firstFree?_eq_some_iff, members_complement, compl_compl]

theorem first?_eq_none_iff : s.first? = none ↔ s.members = ∅ := by
  rw [first?_eq_none, ← members_inj, members_empty]

/-- The lowest member, or `maxPorts` if there is none. -/
def firstAt (s : PortSet) : Access Nat := s.nextAt 0

theorem firstAt_eq (s : PortSet) : s.firstAt = pure ((s.first?.map (·.val)).getD maxPorts) := by
  obtain ⟨r, hr, hfound, hleast⟩ := s.nextAt_spec 0
  rw [firstAt, hr]
  rcases hfound with rfl | ⟨i, hi, rfl, -⟩
  · have hnone : s.first? = none := by
      rw [first?_eq_none_iff, Finset.eq_empty_iff_forall_notMem]
      intro i hi
      have hle := hleast i (mem_members.1 hi) (Nat.zero_le _)
      exact absurd i.isLt (Nat.not_lt.2 hle)
    rw [hnone]
    rfl
  · have hsome : s.first? = some i := by
      rw [first?_eq_some_iff]
      exact ⟨by simpa using hi, fun j hj => hleast j (by simpa using hj) (Nat.zero_le _)⟩
    rw [hsome]
    rfl

/-! ### A set that several use -/

/-- Leaves just one number, word by word: the other bits are cleared before it is set. -/
def storeSingleWords (s : PortSet) (n : Nat) : Access PortSet := do
  let (target, mask) ← locate n
  let kept := eachWord (fun w bits _ => if w = target then bits &&& mask else 0#64) s 4 0 s
  let bits ← kept.wordAt target
  return kept.withWord target (bits ||| mask)

theorem storeSingleWords_val : s.storeSingleWords i.val = pure (singleton i) := by
  simp only [storeSingleWords, locate_val, pure_bind, wordAt_of_lt (word_lt i)]
  congr 1
  generalize hkept : eachWord (fun w bits _ =>
    if w = i.val / 64 then bits &&& BitVec.twoPow 64 (i.val % 64) else 0#64) s 4 0 s = kept
  have honly : ∀ j ∈ kept, j = i := by
    intro j hj
    have hword := word_lt j
    rw [← hkept, mem_eachWord, if_pos ⟨Nat.zero_le _, by omega⟩] at hj
    split at hj
    · rename_i hsame
      rw [BitVec.getLsbD_and, getLsbD_mask i j hsame, Bool.and_eq_true] at hj
      exact of_decide_eq_true hj.2
    · rw [BitVec.getLsbD_zero] at hj
      cases hj
  ext j
  rw [mem_withWord, mem_singleton]
  split
  · rename_i hsame
    rw [BitVec.getLsbD_or, Bool.or_eq_true, ← hsame, ← mem_iff_word, getLsbD_mask i j hsame,
      decide_eq_true_iff]
    exact ⟨fun h => h.elim (honly j) id, Or.inr⟩
  · rename_i hsame
    refine ⟨honly j, ?_⟩
    rintro rfl
    exact absurd rfl hsame

end PortSet

/-- A call to a set that several use. -/
inductive SharedCall where
  | set (i : PortIndex)
  | clear (i : PortIndex)
  | test (i : PortIndex)
  | load
  | store (s : PortSet)
  | storeSingle (i : PortIndex)

/-- What a call gives back, where a set is seen as `α`. -/
inductive SharedAnswer (α : Type) where
  | done
  | bit (set : Bool)
  | contents (a : α)

def SharedAnswer.map {α β : Type} (f : α → β) : SharedAnswer α → SharedAnswer β
  | .done => .done
  | .bit set => .bit set
  | .contents a => .contents (f a)

namespace SharedCall

/-- The call as the machine makes it. -/
def performAt (s : PortSet) : SharedCall → Access (PortSet × SharedAnswer PortSet)
  | .set i => do return (← s.insertAt i.val, .done)
  | .clear i => do return (← s.eraseAt i.val, .done)
  | .test i => do return (s, .bit (← s.testAt i.val))
  | .load => return (s, .contents (PortSet.copyWords ∅ s))
  | .store t => return (s.copyWords t, .done)
  | .storeSingle i => do return (← s.storeSingleWords i.val, .done)

/-- What the call means for a set of slots. -/
def perform (m : Finset PortIndex) : SharedCall → Finset PortIndex × SharedAnswer (Finset PortIndex)
  | .set i => (insert i m, .done)
  | .clear i => (m.erase i, .done)
  | .test i => (m, .bit (i ∈ m))
  | .load => (m, .contents m)
  | .store t => (t.members, .done)
  | .storeSingle i => ({i}, .done)

/-- Calls one after the other. -/
def performAllAt (s : PortSet) : List SharedCall → Access (PortSet × List (SharedAnswer PortSet))
  | [] => return (s, [])
  | c :: cs => do
    let (s, a) ← c.performAt s
    let (s, as) ← performAllAt s cs
    return (s, a :: as)

def performAll (m : Finset PortIndex) :
    List SharedCall → Finset PortIndex × List (SharedAnswer (Finset PortIndex))
  | [] => (m, [])
  | c :: cs =>
    let (m, a) := c.perform m
    let (m, as) := performAll m cs
    (m, a :: as)

theorem perform_members (s : PortSet) (c : SharedCall) : ∃ u a, c.performAt s = pure (u, a) ∧
    c.perform s.members = (u.members, a.map PortSet.members) := by
  cases c with
  | set i => exact ⟨s.insert i, .done, by simp [performAt], by rw [PortSet.members_insert]; rfl⟩
  | clear i => exact ⟨s.erase i, .done, by simp [performAt], by rw [PortSet.members_erase]; rfl⟩
  | test i =>
    refine ⟨s, .bit (decide (i ∈ s)), by simp [performAt], ?_⟩
    simp [perform, SharedAnswer.map]
  | load =>
    refine ⟨s, .contents s, ?_, rfl⟩
    rw [performAt, PortSet.copyWords_eq]
  | store t =>
    refine ⟨t, .done, ?_, rfl⟩
    rw [performAt, PortSet.copyWords_eq]
  | storeSingle i =>
    refine ⟨PortSet.singleton i, .done, ?_, by rw [PortSet.members_singleton]; rfl⟩
    simp [performAt, PortSet.storeSingleWords_val]

theorem performAll_members (s : PortSet) (cs : List SharedCall) :
    ∃ u as, performAllAt s cs = pure (u, as) ∧
      performAll s.members cs = (u.members, as.map (SharedAnswer.map PortSet.members)) := by
  induction cs generalizing s with
  | nil => exact ⟨s, [], rfl, rfl⟩
  | cons c cs ih =>
    obtain ⟨t, a, hat, hmeans⟩ := perform_members s c
    obtain ⟨u, as, hrest, hall⟩ := ih t
    refine ⟨u, a :: as, ?_, ?_⟩
    · simp only [performAllAt, hat, pure_bind, hrest]
    · simp only [performAll, hmeans, hall, List.map_cons]

end SharedCall

namespace PortSet

/-- The machine's operations on sets of ports, as the operations on sets of slots. -/
structure OperatesAsSets (s t : PortSet) (i : PortIndex) : Prop where
  set : s.insertAt i.val = pure (s.insert i) ∧ (s.insert i).members = Insert.insert i s.members
  clear : s.eraseAt i.val = pure (s.erase i) ∧ (s.erase i).members = s.members.erase i
  single : (∅ : PortSet).insertAt i.val = pure (singleton i) ∧ (singleton i).members = {i}
  fill : s.fillWords = full ∧ full.members = Finset.univ
  zero : s.zeroWords = ∅ ∧ (∅ : PortSet).members = ∅
  and : s.andWords t = s ∩ t ∧ (s ∩ t).members = s.members ∩ t.members
  or : s.orWords t = s ∪ t ∧ (s ∪ t).members = s.members ∪ t.members
  andNot : s.andNotWords t = s \ t ∧ (s \ t).members = s.members \ t.members
  not : s.notWords = s.complement ∧ s.complement.members = s.membersᶜ

/-- The answers of the machine about sets of ports, as facts of sets of slots. -/
structure AnswersAsSets (s t : PortSet) (i : PortIndex) : Prop where
  test : s.testAt i.val = pure (decide (i ∈ s)) ∧ (i ∈ s ↔ i ∈ s.members)
  eq : (s.words = t.words ↔ s = t) ∧ (s = t ↔ s.members = t.members)
  isEmpty : s.isEmptyWords = s.isEmpty ∧ (s.isEmpty = true ↔ s.members = ∅)
  count : s.countWords = s.count ∧ s.count = s.members.card
  isSubset : s.isSubsetWords t = s.isSubset t ∧ (s.isSubset t = true ↔ s.members ⊆ t.members)
  first : s.firstAt = pure ((s.first?.map (·.val)).getD maxPorts) ∧
    (s.first? = none ↔ s.members = ∅) ∧
    ∀ j, s.first? = some j ↔ IsLeast (↑s.members : Set PortIndex) j
  firstFree : s.firstFreeWords = s.firstFree?.map (·.val) ∧
    (s.firstFree? = none ↔ s.members = Finset.univ) ∧
    ∀ j, s.firstFree? = some j ↔ IsLeast (↑(s.membersᶜ) : Set PortIndex) j

/-- Four words that are written one by one are the sets of slots: each set of slots is the members of just one
row of words; operations and questions, word by word, come to those of sets; and so do calls to a set that
several use, whatever they are, one at a time. -/
theorem words_are_sets :
    (∀ s : PortSet, ∀ w < 4, ∀ new, (s.withWord w new).words = s.words.set w new) ∧
    (∀ m : Finset PortIndex, ∃! s : PortSet, s.members = m) ∧
    (∀ s t i, OperatesAsSets s t i) ∧ (∀ s t i, AnswersAsSets s t i) ∧
    ∀ (s : PortSet) (calls : List SharedCall), ∃ u as,
      SharedCall.performAllAt s calls = pure (u, as) ∧
      SharedCall.performAll s.members calls = (u.members, as.map (SharedAnswer.map members)) := by
  refine ⟨fun s w hw new => words_withWord hw new, existsUnique_members, fun s t i => ?_,
    fun s t i => ?_, fun s calls => SharedCall.performAll_members s calls⟩
  · exact {
      set := ⟨insertAt_val, members_insert⟩
      clear := ⟨eraseAt_val, members_erase⟩
      single := ⟨insertAt_val.trans (congrArg pure (insert_empty i)), members_singleton⟩
      fill := ⟨fillWords_eq s, members_full⟩
      zero := ⟨zeroWords_eq s, members_empty⟩
      and := ⟨andWords_eq s t, members_inter⟩
      or := ⟨orWords_eq s t, members_union⟩
      andNot := ⟨andNotWords_eq s t, members_sdiff⟩
      not := ⟨notWords_eq s, members_complement⟩ }
  · exact {
      test := ⟨testAt_val, mem_members.symm⟩
      eq := ⟨words_inj, members_inj.symm⟩
      isEmpty := ⟨isEmptyWords_eq s, isEmpty_iff_members⟩
      count := ⟨countWords_eq s, count_eq_card s⟩
      isSubset := ⟨isSubsetWords_eq s t, isSubset_iff_members⟩
      first := ⟨firstAt_eq s, first?_eq_none_iff, fun j => first?_eq_some_iff⟩
      firstFree := ⟨firstFreeWords_eq s, firstFree?_eq_none_iff, fun j => firstFree?_eq_some_iff⟩ }

/-- The ends of words, a word that is full, and one member left of several. -/
example :
    let s := ofList [0, 63, 64, 255]
    let low := ofList (List.finRange 70 |>.map (Fin.castLE (by decide)))
    s.countWords = 4 ∧ s.firstAt = pure 0 ∧ s.firstFreeWords = some 1 ∧ s.notWords.countWords = 252 ∧
      low.firstFreeWords = some 70 ∧ low.notWords.firstAt = pure 70 ∧
      (∅ : PortSet).firstAt = pure 256 ∧ full.firstFreeWords = none ∧
      s.storeSingleWords 64 = pure (singleton 64) := by
  decide +kernel

end PortSet

end VlanBridge
