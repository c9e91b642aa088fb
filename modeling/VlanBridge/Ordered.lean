/-!
# Lists in order of rank

A table is kept as a list whose elements have strictly ascending ranks, so no two of them share one.
`insert` puts an element in its place and replaces the one of the same rank; taking elements out and
changing elements without their ranks keep the order by the list library's own lemmas.
-/

namespace VlanBridge.Ordered

variable {α : Type} (rank : α → Nat)

/-- Each element ranks below those that follow it. -/
def Ascending (as : List α) : Prop := as.Pairwise fun a b => rank a < rank b

/-- Puts an element in its place, where it replaces one of the same rank. -/
def insert (a : α) : List α → List α
  | [] => [a]
  | b :: bs =>
    if rank a < rank b then a :: b :: bs
    else if rank a = rank b then a :: bs
    else b :: insert a bs

variable {rank}

theorem mem_insert_self {a : α} {as : List α} : a ∈ insert rank a as := by
  induction as with
  | nil => exact List.mem_singleton.2 rfl
  | cons b bs ih =>
    unfold insert
    split
    · exact List.mem_cons_self ..
    · split
      · exact List.mem_cons_self ..
      · exact List.mem_cons_of_mem _ ih

theorem mem_of_mem_insert {a b : α} {as : List α} (h : b ∈ insert rank a as) : b = a ∨ b ∈ as := by
  induction as with
  | nil => exact Or.inl (List.mem_singleton.1 h)
  | cons c cs ih =>
    unfold insert at h
    split at h
    · exact List.mem_cons.1 h
    · split at h
      · rcases List.mem_cons.1 h with h | h
        · exact Or.inl h
        · exact Or.inr (List.mem_cons_of_mem _ h)
      · rcases List.mem_cons.1 h with h | h
        · exact Or.inr (h ▸ List.mem_cons_self ..)
        · exact (ih h).imp id (List.mem_cons_of_mem _)

theorem mem_insert_of_ne {a b : α} {as : List α} (h : b ∈ as) (hne : rank a ≠ rank b) :
    b ∈ insert rank a as := by
  induction as with
  | nil => cases h
  | cons c cs ih =>
    unfold insert
    split
    · exact List.mem_cons_of_mem _ h
    · split
      case isTrue he =>
        rcases List.mem_cons.1 h with h | h
        · exact absurd (h ▸ he) hne
        · exact List.mem_cons_of_mem _ h
      · rcases List.mem_cons.1 h with h | h
        · exact h ▸ List.mem_cons_self ..
        · exact List.mem_cons_of_mem _ (ih h)

/-- Putting an element in its place does not touch what is found among those of other ranks. -/
theorem find?_insert {p : α → Bool} {a : α} (ha : ∀ b, rank a = rank b → p b = false) (as : List α) :
    (insert rank a as).find? p = as.find? p := by
  have hskip : ∀ bs : List α, (a :: bs).find? p = bs.find? p := by
    intro bs
    rw [List.find?_cons, ha a rfl]
  induction as with
  | nil => exact hskip []
  | cons b bs ih =>
    unfold insert
    split
    · exact hskip (b :: bs)
    · split
      · rename_i he
        rw [hskip, List.find?_cons, ha b he]
      · rw [List.find?_cons, List.find?_cons, ih]

theorem ascending_insert {a : α} {as : List α} (h : Ascending rank as) :
    Ascending rank (insert rank a as) := by
  induction as with
  | nil => exact List.pairwise_singleton ..
  | cons b bs ih =>
    have hb := List.pairwise_cons.1 h
    unfold insert
    split
    case isTrue hlt =>
      refine List.pairwise_cons.2 ⟨?_, h⟩
      intro c hc
      rcases List.mem_cons.1 hc with rfl | hc
      · exact hlt
      · exact Nat.lt_trans hlt (hb.1 c hc)
    case isFalse hge =>
      split
      case isTrue he => exact List.pairwise_cons.2 ⟨fun c hc => he ▸ hb.1 c hc, hb.2⟩
      case isFalse hne =>
        refine List.pairwise_cons.2 ⟨?_, ih hb.2⟩
        intro c hc
        rcases mem_of_mem_insert hc with rfl | hc
        · omega
        · exact hb.1 c hc

/-- Where no element has its rank, an element is only put between the others. -/
theorem perm_insert {a : α} {as : List α} (h : ∀ b ∈ as, rank a ≠ rank b) :
    (insert rank a as).Perm (a :: as) := by
  induction as with
  | nil => exact List.Perm.refl _
  | cons b bs ih =>
    have hb := h b (List.mem_cons_self ..)
    have hbs := ih fun c hc => h c (List.mem_cons_of_mem _ hc)
    unfold insert
    rw [if_neg hb]
    split
    · exact List.Perm.refl _
    · exact (hbs.cons b).trans (List.Perm.swap a b bs)

theorem insert_cons (a b : α) (bs : List α) :
    insert rank a (b :: bs) =
      if rank a < rank b then a :: b :: bs
      else if rank a = rank b then a :: bs
      else b :: insert rank a bs := rfl

theorem insert_of_forall_lt {a : α} {as : List α} (h : ∀ b ∈ as, rank a < rank b) :
    insert rank a as = a :: as := by
  cases as with
  | nil => rfl
  | cons b bs => exact if_pos (h b (List.mem_cons_self ..))

/-- An element may be put in its place after others have been taken out, if elements of one rank are
taken out together. -/
theorem filter_insert {p : α → Bool} (hp : ∀ a b, rank a = rank b → p a = p b) {a : α} {as : List α}
    (h : Ascending rank as) :
    (insert rank a as).filter p = if p a then insert rank a (as.filter p) else as.filter p := by
  induction as with
  | nil => exact List.filter_cons
  | cons b bs ih =>
    have hb := List.pairwise_cons.1 h
    rw [insert_cons]
    by_cases hlt : rank a < rank b
    · have hall : ∀ c ∈ (b :: bs).filter p, rank a < rank c := by
        intro c hc
        rcases List.mem_cons.1 (List.mem_filter.1 hc).1 with rfl | hc
        · exact hlt
        · exact Nat.lt_trans hlt (hb.1 c hc)
      rw [if_pos hlt, List.filter_cons, insert_of_forall_lt hall]
    · rw [if_neg hlt]
      by_cases he : rank a = rank b
      · have hall : ∀ c ∈ bs.filter p, rank a < rank c := by
          intro c hc
          rw [he]
          exact hb.1 c (List.mem_filter.1 hc).1
        rw [if_pos he, List.filter_cons, List.filter_cons, ← hp a b he]
        by_cases hpa : p a = true
        · rw [if_pos hpa, if_pos hpa, if_pos hpa, insert_cons, if_neg hlt, if_pos he]
        · rw [if_neg hpa, if_neg hpa, if_neg hpa]
      · rw [if_neg he, List.filter_cons, List.filter_cons, ih hb.2]
        by_cases hpb : p b = true
        · rw [if_pos hpb, if_pos hpb, insert_cons, if_neg hlt, if_neg he]
          split <;> rfl
        · rw [if_neg hpb, if_neg hpb]

/-- An element that is put between others of other ranks and then taken out leaves them as they were. -/
theorem filter_insert_of_new {p : α → Bool} {a : α} {as : List α} (ha : p a = false)
    (has : ∀ b ∈ as, rank a ≠ rank b ∧ p b = true) : (insert rank a as).filter p = as := by
  induction as with
  | nil => simp only [insert, List.filter_cons, ha, Bool.false_eq_true, if_false, List.filter_nil]
  | cons b bs ih =>
    obtain ⟨hne, hb⟩ := has b (List.mem_cons_self ..)
    have hbs : ∀ c ∈ bs, rank a ≠ rank c ∧ p c = true := fun c hc => has c (List.mem_cons_of_mem _ hc)
    have hkept : bs.filter p = bs := List.filter_eq_self.2 fun c hc => (hbs c hc).2
    rw [insert_cons, if_neg hne]
    split
    · rw [List.filter_cons_of_neg (by simp [ha]), List.filter_cons_of_pos hb, hkept]
    · rw [List.filter_cons_of_pos hb, ih hbs]

/-- Two elements of one rank are the same element. -/
theorem eq_of_rank_eq {as : List α} (h : Ascending rank as) {a b : α} (ha : a ∈ as) (hb : b ∈ as)
    (he : rank a = rank b) : a = b := by
  induction as with
  | nil => cases ha
  | cons c cs ih =>
    have hc := List.pairwise_cons.1 h
    rcases List.mem_cons.1 ha with rfl | ha' <;> rcases List.mem_cons.1 hb with rfl | hb'
    · rfl
    · exact absurd he (Nat.ne_of_lt (hc.1 b hb'))
    · exact absurd he.symm (Nat.ne_of_lt (hc.1 a ha'))
    · exact ih hc.2 ha' hb'

theorem ascending_filter {as : List α} (p : α → Bool) (h : Ascending rank as) :
    Ascending rank (as.filter p) := List.Pairwise.filter p h

theorem ascending_map {as : List α} (f : α → α) (hf : ∀ a, rank (f a) = rank a)
    (h : Ascending rank as) : Ascending rank (as.map f) := by
  refine List.Pairwise.map f ?_ h
  intro a b hab
  rw [hf, hf]
  exact hab

end VlanBridge.Ordered
