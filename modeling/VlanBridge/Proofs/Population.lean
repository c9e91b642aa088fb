import VlanBridge.Proofs.Accounts
import VlanBridge.Proofs.Removals
/-!
# How many entries there are

Entries are learned from frames and installed by hand; they age, are flushed, are removed by hand, and a
dynamic one gives way to a static one under its key. Each event does one of these, and does it to as many
entries as its counter counts (`next_balanced`). So the number of entries is the balance of all that has
happened to the table.
-/

namespace VlanBridge

open VlanBridge.Net

/-- The counters of the entries that come and go. -/
def Counter.turnover : List Counter := [.learned, .aged, .flushed]

namespace Ordered

variable {α : Type} {rank : α → Nat}

theorem length_insert_of_mem {a b : α} {as : List α} (h : Ascending rank as) (hb : b ∈ as)
    (he : rank a = rank b) : (insert rank a as).length = as.length := by
  induction as with
  | nil => cases hb
  | cons c cs ih =>
    have hc := List.pairwise_cons.1 h
    rw [insert_cons]
    rcases List.mem_cons.1 hb with rfl | hb
    · rw [if_neg (by omega), if_pos he]
      rfl
    · have hlt := hc.1 b hb
      rw [if_neg (by omega), if_neg (by omega), List.length_cons, List.length_cons, ih hc.2 hb]

/-- Where one element has a rank, to take that rank out is to take out one element. -/
theorem length_filter_ne {b : α} {p : α → Bool} {as : List α} (h : Ascending rank as) (hb : b ∈ as)
    (hp : ∀ a ∈ as, p a = false ↔ rank a = rank b) : (as.filter p).length + 1 = as.length := by
  induction as with
  | nil => cases hb
  | cons c cs ih =>
    have hc := List.pairwise_cons.1 h
    have hpcs : ∀ a ∈ cs, p a = false ↔ rank a = rank b :=
      fun a ha => hp a (List.mem_cons_of_mem _ ha)
    rcases List.mem_cons.1 hb with rfl | hb
    · have hrest : cs.filter p = cs := by
        refine List.filter_eq_self.2 fun a ha => ?_
        have hlt := hc.1 a ha
        refine (Bool.not_eq_false _).mp fun hpa => ?_
        have hsame := (hpcs a ha).1 hpa
        omega
      have hpb : p b = false := (hp b (List.mem_cons_self ..)).2 rfl
      rw [List.filter_cons_of_neg (by rw [hpb]; exact Bool.false_ne_true), hrest]
      rfl
    · have hlt := hc.1 b hb
      have hpc : p c = true := by
        refine (Bool.not_eq_false _).mp fun hpc => ?_
        have hsame := (hp c (List.mem_cons_self ..)).1 hpc
        omega
      rw [List.filter_cons_of_pos hpc, List.length_cons, List.length_cons, ih hc.2 hb hpcs]

end Ordered

namespace Fdb

variable {t u : Fdb}

/-! ### The size of the table -/

theorem size_insert_of_none {e : Entry} (h : t.find? e.key = none) :
    (t.insert e).size = t.size + 1 := by
  refine (Ordered.perm_insert fun d hd he => ?_).length_eq
  have hne := List.find?_eq_none.1 h d hd
  exact hne (beq_iff_eq.2 (Key.eq_of_rank_eq he).symm)

theorem Sorted.size_insert_of_some (ht : t.Sorted) {e d : Entry} (h : t.find? e.key = some d) :
    (t.insert e).size = t.size := by
  refine Ordered.length_insert_of_mem ht (mem_of_find? h) ?_
  unfold rank
  rw [find?_key h]

theorem size_modify (t : Fdb) (key : Key) (f : Entry → Entry) : (t.modify key f).size = t.size :=
  List.length_map ..

theorem size_learn (t : Fdb) (src : Mac) (vid : Vid) (i : PortIndex) (now : Int) :
    (t.learn src vid i now).1.size =
      t.size + if (t.learn src vid i now).2 = .learned then 1 else 0 := by
  rcases t.learn_cases src vid i now with
    ⟨_, hother, he, -⟩ | ⟨-, hnone, he⟩ | ⟨_, _, -, -, -, hother, he⟩
  · rw [he, if_neg hother]
    rfl
  · rw [he, if_pos rfl]
    exact size_insert_of_none hnone
  · rw [he, if_neg hother]
    exact size_modify ..

/-- The entry that gives way is the dynamic one under the key, if there is one. -/
theorem Sorted.size_addStatic (ht : t.Sorted) {key : Key} {ports : PortSet} {origin : Origin}
    {now : Int} {replaced : Option Entry}
    (h : t.addStatic key ports origin now = .ok (u, replaced)) :
    u.size + ((t.find? key).any (·.origin = .dynamic)).toNat = t.size + 1 := by
  have hdynamic := fun e => dynamic_of_addStatic h (e := e)
  obtain ⟨-, rfl⟩ := addStatic_eq_ok h
  cases hfind : t.find? key with
  | none =>
    exact size_insert_of_none (e := ⟨key, origin, ports, stamp now⟩) hfind
  | some e =>
    have hsame := ht.size_insert_of_some (e := ⟨key, origin, ports, stamp now⟩) hfind
    simp only [Option.any_some, hdynamic e hfind, decide_true, Bool.toNat_true]
    omega

theorem Sorted.size_remove (ht : t.Sorted) {key : Key} {e : Entry} (h : t.remove key = .ok (u, e)) :
    u.size + 1 = t.size := by
  have hfind : t.find? key = some e := by
    unfold remove at h
    split at h
    · cases h
    · cases h
      assumption
  rw [remove_eq_ok h]
  refine Ordered.length_filter_ne ht (mem_of_find? hfind) fun d _ => ?_
  simp only [bne_eq_false_iff_eq, ← find?_key hfind]
  constructor
  · intro hkey
    unfold rank
    rw [hkey]
  · exact Key.eq_of_rank_eq

end Fdb

namespace Bridge

variable {b c d : Bridge}

/-! ### Entries that come in -/

/-- The table may have grown, by as much as is counted as learned. -/
structure Enriched (b c : Bridge) : Prop where
  size : b.fdb.size ≤ c.fdb.size
  counters : ∀ k ∈ Counter.turnover, c.counters.get k =
    b.counters.get k + UInt64.ofNat (if k = .learned then c.fdb.size - b.fdb.size else 0)

theorem ofEntries_of_turnover {k : Counter} (hk : k ∈ Counter.turnover) : k.ofEntries = true := by
  revert k
  decide

theorem Resting.enriched (h : Resting b c) : Enriched b c := by
  refine ⟨Nat.le_of_eq (congrArg Fdb.size h.fdb.symm), fun k hk => ?_⟩
  rw [h.counters k (ofEntries_of_turnover hk), h.fdb, Nat.sub_self, ite_self]
  exact (UInt64.add_zero _).symm

theorem Resting.then (h : Resting b c) (h' : Enriched c d) : Enriched b d := by
  refine ⟨?_, fun k hk => ?_⟩
  · rw [← h.fdb]
    exact h'.size
  · rw [h'.counters k hk, h.counters k (ofEntries_of_turnover hk), h.fdb]

theorem Enriched.rest (h : Enriched b c) (h' : Resting c d) : Enriched b d := by
  refine ⟨?_, fun k hk => ?_⟩
  · rw [h'.fdb]
    exact h.size
  · rw [h'.counters k (ofEntries_of_turnover hk), h.counters k hk, h'.fdb]

theorem resting_count (b : Bridge) {k : Counter} (hk : k.ofEntries = false) :
    Resting b (b.count k) := ⟨rfl, b.counters.sameEntries_count hk⟩

theorem resting_leave (b : Bridge) (guard : Guard) (verdict : Verdict) :
    Resting b (b.leave guard verdict) := by
  cases verdict with
  | dropped reason =>
    refine ⟨rfl, b.counters.sameEntries_count ?_⟩
    cases reason <;> rfl
  | delivered | trapped => exact ⟨rfl, .refl _⟩

theorem resting_send (b : Bridge) (flight : Flight) (p : Port) :
    Resting b (b.send flight p).1 := by
  unfold send handOver
  cases p.endpoint with
  | localStack => exact ⟨rfl, b.counters.sameEntries_count rfl⟩
  | device id =>
    have hkind : ∀ accepted : Bool,
        (if accepted then Counter.txFrames else .txErrors).ofEntries = false := by decide
    exact ⟨rfl, b.counters.sameEntries_count (hkind _)⟩

theorem resting_sendAll (flight : Flight) (ps : List Port) (b : Bridge) :
    Resting b (sendAll flight ps b).1 := by
  induction ps generalizing b with
  | nil => exact .refl b
  | cons p ps ih => exact (resting_send b flight p).trans (ih _)

theorem enriched_learnSource (b : Bridge) (p : Port) (c : Classification) (src : Mac) :
    Enriched b (b.learnSource p c src) := by
  rcases learnSource_eq b p c src with he | ⟨-, he⟩
  · rw [he]
    exact (Resting.refl b).enriched
  · have hsize := b.fdb.size_learn src c.vid p.index b.clock
    rw [he]
    refine ⟨?_, fun k hk => ?_⟩
    · show b.fdb.size ≤ (b.fdb.learn src c.vid p.index b.clock).1.size
      omega
    · show (b.toLearning.learnedAs _ (b.fdb.learn src c.vid p.index b.clock).2).counters.get k =
        b.counters.get k + UInt64.ofNat (if k = .learned then
          (b.fdb.learn src c.vid p.index b.clock).1.size - b.fdb.size else 0)
      rw [hsize, Nat.add_sub_cancel_left]
      generalize (b.fdb.learn src c.vid p.index b.clock).2 = outcome
      cases outcome with
      | learned =>
        simp only [Learning.learnedAs, Learning.counterOf, Counters.get_count, if_true]
        split
        · rfl
        · exact (UInt64.add_zero _).symm
      | moved =>
        have hne : ¬ k = .stationMoves := by
          rintro rfl
          revert hk
          decide
        simp only [Learning.learnedAs, Learning.counterOf, Counters.get_count, hne, if_false,
          reduceCtorEq, ite_self]
        exact (UInt64.add_zero _).symm
      | ignored | static | refreshed =>
        simp only [Learning.learnedAs, Learning.counterOf, reduceCtorEq, if_false, ite_self]
        exact (UInt64.add_zero _).symm

/-- All that a frame does to the entries and their counters is that its source is learned. -/
theorem resting_receive (b : Bridge) (h : Handle) (f : Frame) :
    Resting b (b.receive h f).1 ∨
      ∃ p c g src, b.classified? h f = some (p, c, g) ∧ f.src? = some src ∧
        Resting (b.enter.1.learnSource p c src) (b.receive h f).1 := by
  have henter : Resting b b.enter.1 := ⟨rfl, b.counters.sameEntries_count rfl⟩
  have hcourse := course_receive b h f
  generalize b.receive h f = o at hcourse ⊢
  cases hcourse with
  | unclassified =>
    dsimp only
    exact Or.inl (henter.trans (resting_leave _ _ _))
  | @trapped p c g src hc hsrc =>
    refine Or.inr ⟨p, c, g, src, hc, hsrc, ?_⟩
    dsimp only
    exact (resting_count _ rfl).trans (resting_leave _ _ _)
  | @notAllowed p c g src hc hsrc =>
    refine Or.inr ⟨p, c, g, src, hc, hsrc, ?_⟩
    dsimp only
    exact resting_leave _ _ _
  | @sent p c g dst src r l flight after hc _ hsrc _ hl _ hafter =>
    have hhit : (l.resolve r.vlan c.vid g dst).2.ofEntries = false := by
      rcases resolve_counter l r.vlan c.vid g dst with h | h | h
      · rw [h]
        rfl
      · rw [h]
        rfl
      · rw [h]
        rfl
    have hsent := (resting_count l hhit).trans (resting_sendAll flight flight.targets _)
    rw [← hafter, hl] at hsent
    refine Or.inr ⟨p, c, g, src, hc, hsrc, ?_⟩
    dsimp only
    exact hsent.trans (resting_leave _ _ _)

theorem enriched_receive (b : Bridge) (h : Handle) (f : Frame) :
    Enriched b (b.receive h f).1 := by
  have henter : Resting b b.enter.1 := ⟨rfl, b.counters.sameEntries_count rfl⟩
  rcases resting_receive b h f with hrest | ⟨p, c, g, src, -, -, hrest⟩
  · exact hrest.enriched
  · exact (henter.then (enriched_learnSource _ p c src)).rest hrest

end Bridge

/-! ### The balance of an event -/

/-- The key under which an operation removes an entry. -/
def Operation.removedKey? : Operation → Option Key
  | .fdbDel key => some key
  | _ => none

namespace Moment

variable {m : Moment}

/-- The operation that is performed or requested. -/
def operation? (m : Moment) : Option Operation :=
  match m.event with
  | .perform op _ => some op
  | .request r => m.before.operation? r
  | _ => none

/-- Whether an operation or a request is answered without an error. -/
def succeeds (m : Moment) : Bool :=
  match m.event with
  | .perform op _ => (m.before.perform op).2.isOk
  | .request r => (m.before.handle r).2.isOk
  | _ => false

/-- The counter of the entries that come or go, unless they do so by hand. -/
def counter? (m : Moment) : Option Counter :=
  match m.event with
  | .receive .. => some .learned
  | .wake _ => some .aged
  | _ => m.operation?.bind (·.remover?)

/-- By how much the table grows or shrinks on account of a counter. -/
def tally (m : Moment) (k : Counter) : Nat :=
  if m.counter? = some k then
    if k = .learned then m.after.fdb.size - m.before.fdb.size
    else m.before.fdb.size - m.after.fdb.size
  else 0

/-- An entry is installed by hand. -/
def installs (m : Moment) : Bool := m.succeeds && m.operation?.any (·.addedKey?.isSome)

/-- An entry that is installed by hand takes the place of a dynamic one. -/
def replaces (m : Moment) : Bool :=
  m.succeeds && m.operation?.any fun op => op.addedKey?.any fun key =>
    (m.before.fdb.find? key).any (·.origin = .dynamic)

/-- An entry is removed by hand. -/
def removes (m : Moment) : Bool := m.succeeds && m.operation?.any (·.removedKey?.isSome)

/-- What happens to the table is what is counted and what is done by hand. -/
structure Balanced (m : Moment) : Prop where
  counters : ∀ k ∈ Counter.turnover,
    m.after.counters.get k = m.before.counters.get k + UInt64.ofNat (m.tally k)
  size : m.after.fdb.size + m.replaces.toNat + m.tally .aged + m.tally .flushed + m.removes.toNat =
    m.before.fdb.size + m.tally .learned + m.installs.toNat

theorem not_by_hand (h : ∀ op, m.operation? = some op → ¬ op.IsSingle) :
    m.installs = false ∧ m.replaces = false ∧ m.removes = false := by
  unfold installs replaces removes
  cases hop : m.operation? with
  | none => simp only [Option.any_none, Bool.and_false, and_self]
  | some op =>
    cases op with
    | fdbAdd | fdbDel => exact absurd trivial (h _ hop)
    | portAdd | portDel | portSetPvid | portSetIngress | vlanAdd | vlanDel | vlanAttach | vlanDetach
      | vlanSetLearning | vlanSetFlood | vlanSetRouter | fdbFlush | learn | reclaim | quiesce
      | startAgeing | sleep | shutdown =>
      simp only [Option.any_some, Operation.addedKey?, Operation.removedKey?, Option.isSome_none,
        Option.any_none, Bool.and_false, and_self]

theorem balanced_of_resting (h : m.before.Resting m.after)
    (hhand : ∀ op, m.operation? = some op → ¬ op.IsSingle) : m.Balanced := by
  obtain ⟨hinstalls, hreplaces, hremoves⟩ := not_by_hand hhand
  have hnone : ∀ k, m.tally k = 0 := by
    intro k
    simp only [tally, h.fdb, Nat.sub_self, ite_self]
  refine ⟨fun k hk => ?_, ?_⟩
  · rw [h.counters k (Bridge.ofEntries_of_turnover hk), hnone]
    exact (UInt64.add_zero _).symm
  · rw [h.fdb, hinstalls, hreplaces, hremoves, hnone, hnone, hnone]
    rfl

theorem balanced_of_enriched (h : m.before.Enriched m.after) (hk : m.counter? = some .learned)
    (hhand : ∀ op, m.operation? = some op → ¬ op.IsSingle) : m.Balanced := by
  obtain ⟨hinstalls, hreplaces, hremoves⟩ := not_by_hand hhand
  have htally : ∀ k, m.tally k =
      if k = .learned then m.after.fdb.size - m.before.fdb.size else 0 := by
    intro k
    by_cases hlearned : k = .learned
    · subst hlearned
      simp only [tally, hk, if_true]
    · have hne : ¬ Counter.learned = k := fun he => hlearned he.symm
      simp only [tally, hk, Option.some.injEq, hne, hlearned, if_false]
  refine ⟨fun k hk => ?_, ?_⟩
  · rw [h.counters k hk, htally]
  · have hsize := h.size
    simp only [hinstalls, hreplaces, hremoves, htally, reduceCtorEq, if_false, if_true,
      Bool.toNat_false]
    omega

theorem balanced_of_emptied {k : Counter} (h : m.before.Emptied k m.after)
    (hk : k = .aged ∨ k = .flushed) (hcounter : m.counter? = some k)
    (hhand : ∀ op, m.operation? = some op → ¬ op.IsSingle) : m.Balanced := by
  obtain ⟨hinstalls, hreplaces, hremoves⟩ := not_by_hand hhand
  have htally : ∀ j, m.tally j = if j = k then m.before.fdb.size - m.after.fdb.size else 0 := by
    intro j
    by_cases hj : j = k
    · subst hj
      have hne : ¬ j = .learned := by rcases hk with rfl | rfl <;> nofun
      simp only [tally, hcounter, if_true, hne, if_false]
    · have hne : ¬ k = j := fun he => hj he.symm
      simp only [tally, hcounter, Option.some.injEq, hne, hj, if_false]
  refine ⟨fun j hj => ?_, ?_⟩
  · rw [h.counters j (Bridge.ofEntries_of_turnover hj), htally]
  · have hsize := h.size
    rcases hk with rfl | rfl
    · simp only [hinstalls, hreplaces, hremoves, htally, reduceCtorEq, if_false, if_true,
        Bool.toNat_false]
      omega
    · simp only [hinstalls, hreplaces, hremoves, htally, reduceCtorEq, if_false, if_true,
        Bool.toNat_false]
      omega

end Moment

namespace Bridge

variable {b : Bridge}

/-! ### Entries by hand -/

theorem fdbAdd_turnover (hs : b.Sound) (key : Key) (ports : PortSet) (origin : Origin) :
    b.counters.SameEntries (b.fdbAdd key ports origin).1.counters ∧
      (b.fdbAdd key ports origin).1.fdb.size + ((b.fdbAdd key ports origin).2.isOk &&
        (b.fdb.find? key).any (·.origin = .dynamic)).toNat =
        b.fdb.size + (b.fdbAdd key ports origin).2.isOk.toNat := by
  unfold fdbAdd
  split
  · exact ⟨.refl _, rfl⟩
  · exact ⟨.refl _, rfl⟩
  · split
    · exact ⟨.refl _, rfl⟩
    · rename_i s gone hadd
      obtain ⟨t, replaced, htable, rfl⟩ := Learning.addStatic_eq_ok hadd
      have hrest := resting_reclaim (b.withLearning (b.toLearning.without t gone))
      refine ⟨hrest.counters, ?_⟩
      rw [settle, hrest.fdb]
      simp only [Except.isOk, Except.toBool, Bool.true_and, Bool.toNat_true]
      exact hs.entries.size_addStatic htable

theorem fdbDel_turnover (hs : b.Sound) (key : Key) :
    b.counters.SameEntries (b.fdbDel key).1.counters ∧
      (b.fdbDel key).1.fdb.size + (b.fdbDel key).2.isOk.toNat = b.fdb.size := by
  unfold fdbDel
  split
  · exact ⟨.refl _, rfl⟩
  · rename_i s gone hremove
    obtain ⟨t, e, htable, rfl⟩ := Learning.remove_eq_ok hremove
    have hrest := resting_reclaim (b.withLearning (b.toLearning.without t gone))
    refine ⟨hrest.counters, ?_⟩
    rw [settle, hrest.fdb]
    exact hs.entries.size_remove htable

theorem isOk_answer {α β : Type} (o : Outcome α) (form : α → β) :
    (answer o form).2.isOk = o.2.isOk := by
  unfold answer
  cases o.2 <;> rfl

/-- What an operation does is balanced, performed or requested. -/
theorem balanced_of_operation {m : Moment} {op : Operation} (hs : m.before.Sound)
    (hop : op.IsControl) (hm : m.operation? = some op) (hafter : m.after = (m.before.perform op).1)
    (hsucceeds : m.succeeds = (m.before.perform op).2.isOk) (hcounter : m.counter? = op.remover?) :
    m.Balanced := by
  have hhand : ¬ op.IsSingle → ∀ op', m.operation? = some op' → ¬ op'.IsSingle := by
    intro hmany op' hop'
    rw [hm] at hop'
    cases hop'
    exact hmany
  cases hkind : op.remover? with
  | some k =>
    have hmany : ¬ op.IsSingle := by
      intro hsingle
      cases op with
      | fdbAdd | fdbDel => cases hkind
      | _ => exact hsingle
    have hk : k = .aged ∨ k = .flushed := by
      cases op with
      | sleep =>
        cases hkind
        exact Or.inl rfl
      | portDel | vlanDel | fdbFlush | shutdown =>
        cases hkind
        exact Or.inr rfl
      | _ => cases hkind
    refine Moment.balanced_of_emptied ?_ hk (hcounter.trans hkind) (hhand hmany)
    rw [hafter]
    exact perform_emptied hkind
  | none =>
    have hnone : ∀ k, m.tally k = 0 := by
      intro k
      rw [hkind] at hcounter
      simp only [Moment.tally, hcounter, reduceCtorEq, if_false]
    by_cases hmany : op.IsSingle
    · cases op with
      | fdbAdd key ports origin =>
        obtain ⟨hcounters, hsize⟩ := fdbAdd_turnover hs key ports origin
        have hok : m.succeeds = (m.before.fdbAdd key ports origin).2.isOk :=
          hsucceeds.trans (isOk_answer _ _)
        refine ⟨fun k hk => ?_, ?_⟩
        · rw [hafter, hnone]
          exact (hcounters k (ofEntries_of_turnover hk)).trans (UInt64.add_zero _).symm
        · simp only [hafter, hnone, Moment.installs, Moment.replaces, Moment.removes, hm, hok,
            Option.any_some, Operation.addedKey?, Operation.removedKey?, Option.isSome_some,
            Option.isSome_none, Bool.and_true, Bool.and_false, Bool.toNat_false, Nat.add_zero]
          exact hsize
      | fdbDel key =>
        obtain ⟨hcounters, hsize⟩ := fdbDel_turnover hs key
        have hok : m.succeeds = (m.before.fdbDel key).2.isOk :=
          hsucceeds.trans (isOk_answer _ _)
        refine ⟨fun k hk => ?_, ?_⟩
        · rw [hafter, hnone]
          exact (hcounters k (ofEntries_of_turnover hk)).trans (UInt64.add_zero _).symm
        · simp only [hafter, hnone, Moment.installs, Moment.replaces, Moment.removes, hm, hok,
            Option.any_some, Operation.addedKey?, Operation.removedKey?, Option.isSome_some,
            Option.isSome_none, Option.any_none, Bool.and_true, Bool.and_false, Bool.toNat_false,
            Nat.add_zero]
          exact hsize
      | _ => exact hmany.elim
    · refine Moment.balanced_of_resting ?_ (hhand hmany)
      rw [hafter]
      exact perform_resting hop hmany hkind

theorem next_balanced (hs : b.Sound) (e : Event) : Moment.Balanced ⟨b, e⟩ := by
  cases e with
  | perform op control => exact balanced_of_operation hs control rfl rfl rfl rfl
  | request r =>
    have hafter := handle_fst b r
    cases hop : b.operation? r with
    | none =>
      rw [hop] at hafter
      refine Moment.balanced_of_resting ?_ fun op hop' => ?_
      · show Resting b (b.handle r).1
        rw [hafter]
        exact .refl b
      · exact nomatch hop.symm.trans hop'
    | some op =>
      have hsame := handle_eq b r
      rw [hop] at hafter hsame
      refine balanced_of_operation hs (operation?_eq_some hop).1 hop hafter ?_ ?_
      · exact (congrArg (·.2.isOk) hsame).trans (isOk_answer _ _)
      · show (b.operation? r).bind (·.remover?) = _
        rw [hop]
        rfl
  | receive h f => exact Moment.balanced_of_enriched (enriched_receive b h f) rfl nofun
  | wake now => exact Moment.balanced_of_emptied (emptied_wake b now) (Or.inl rfl) rfl nofun
  | clock | trap | network => exact Moment.balanced_of_resting ⟨rfl, .refl _⟩ nofun

/-! ### The balance of a run -/

end Bridge

/-- How many entries have come or gone at some moments on account of a counter. -/
def Moment.tallied (ms : List Moment) (k : Counter) : Nat := (ms.map (·.tally k)).sum

namespace Bridge

variable {b : Bridge}

theorem run_balanced (hb : b.Reachable) (events : List Event) :
    (∀ k ∈ Counter.turnover, (b.run events).counters.get k =
      b.counters.get k + UInt64.ofNat (Moment.tallied (b.history events) k)) ∧
    (b.run events).fdb.size + (b.history events).countP (·.replaces)
      + Moment.tallied (b.history events) .aged + Moment.tallied (b.history events) .flushed
      + (b.history events).countP (·.removes) =
    b.fdb.size + Moment.tallied (b.history events) .learned
      + (b.history events).countP (·.installs) := by
  -- the counters may wrap around on the way, so they are compared as words and the sizes as numbers
  induction events generalizing b with
  | nil => exact ⟨fun k _ => (UInt64.add_zero _).symm, rfl⟩
  | cons e es ih =>
    obtain ⟨hcounters, hsize⟩ := next_balanced hb.sound e
    obtain ⟨hcounters', hsize'⟩ := ih (hb.next e)
    refine ⟨fun k hk => ?_, ?_⟩
    · show ((b.next e).run es).counters.get k = b.counters.get k + UInt64.ofNat
        (Moment.tally ⟨b, e⟩ k + Moment.tallied ((b.next e).history es) k)
      rw [hcounters' k hk, UInt64.ofNat_add, ← UInt64.add_assoc]
      exact congrArg (· + _) (hcounters k hk)
    · have hcount : ∀ p : Moment → Bool, (b.history (e :: es)).countP p =
          ((b.next e).history es).countP p + (p ⟨b, e⟩).toNat := by
        intro p
        rw [history, List.countP_cons]
        cases p ⟨b, e⟩ <;> rfl
      have htallied : ∀ k, Moment.tallied (b.history (e :: es)) k =
          Moment.tally ⟨b, e⟩ k + Moment.tallied ((b.next e).history es) k := fun _ => rfl
      have hafter : Moment.after ⟨b, e⟩ = b.next e := rfl
      have hrun : b.run (e :: es) = (b.next e).run es := rfl
      rw [hrun, hcount, hcount, hcount, htallied, htallied, htallied]
      rw [hafter] at hsize
      dsimp only at hsize
      omega

/-! ### The answers of flushes -/

theorem size_fdbFlush {f : FlushFilter} {n : Nat} (h : (b.fdbFlush f).2 = .ok n) :
    (b.fdbFlush f).1.fdb.size + n = b.fdb.size := by
  unfold fdbFlush at h ⊢
  cases hflush : b.toLearning.flush f b.clock with
  | error e =>
    rw [hflush] at h
    cases h
  | ok flushed =>
    obtain ⟨s, gone⟩ := flushed
    obtain ⟨t, htable, rfl⟩ := Learning.flush_eq_ok hflush
    rw [hflush] at h
    cases h
    have hrest := resting_reclaim
      (b.withLearning ((b.toLearning.without t gone).tally .flushed gone.length))
    have hfdb : (b.settle ((b.toLearning.without t gone).tally .flushed gone.length)).fdb = t :=
      hrest.fdb
    simp only [hfdb]
    rcases Fdb.flush_eq_ok htable with he | ⟨port, he⟩
    · obtain ⟨rfl, rfl⟩ := Prod.mk.inj he
      rfl
    · have hsize := b.fdb.size_flushPort f port b.clock
      rw [← he] at hsize
      exact hsize

theorem size_handle_fdbFlush {port : Option String} {vid : Option Vid} {origin : Option Origin}
    {agedOnly : Bool} {n : Nat}
    (h : (b.handle (.fdbFlush port vid origin agedOnly)).2 = .ok (.flushed n)) :
    (b.handle (.fdbFlush port vid origin agedOnly)).1.fdb.size + n = b.fdb.size := by
  have hanswer : ∀ f, (answer (b.fdbFlush f) Response.flushed).2 = .ok (.flushed n) →
      (answer (b.fdbFlush f) Response.flushed).1.fdb.size + n = b.fdb.size := by
    intro f hf
    unfold answer at hf
    cases hok : (b.fdbFlush f).2 with
    | error e =>
      simp only [hok] at hf
      cases hf
    | ok count =>
      simp only [hok] at hf
      cases hf
      exact size_fdbFlush hok
  cases port with
  | none => exact hanswer _ h
  | some name =>
    simp only [handle] at h ⊢
    split at h
    · cases h
    · exact hanswer _ h

/-- The number of entries is the balance of what the counters have counted and what has been done by hand,
as long as no counter has wrapped around. A flush answers how many entries fewer there are. -/
theorem size_eq_balance {config : BridgeConfig} {network : Network}
    (hb : Bridge.create config network = .ok b) (events : List Event) :
    let c := b.run events
    let ms := b.history events
    (∀ k ∈ Counter.turnover, c.counters.get k = UInt64.ofNat (Moment.tallied ms k)) ∧
    ((∀ k ∈ Counter.turnover, Moment.tallied ms k < UInt64.size) →
      (c.fdb.size : Int) = c.counters.learned.toNat + ms.countP (·.installs)
        - ms.countP (·.replaces) - c.counters.aged.toNat - c.counters.flushed.toNat
        - ms.countP (·.removes)) ∧
    (∀ f n, (c.fdbFlush f).2 = .ok n → (c.fdbFlush f).1.fdb.size + n = c.fdb.size) ∧
    (∀ port vid origin agedOnly n,
      (c.handle (.fdbFlush port vid origin agedOnly)).2 = .ok (.flushed n) →
      (c.handle (.fdbFlush port vid origin agedOnly)).1.fdb.size + n = c.fdb.size) := by
  intro c ms
  obtain ⟨hgrown, hbalance⟩ := run_balanced (.create hb) events
  have hcounters : b.counters = {} := by rw [create_eq_ok hb]
  have hempty : b.fdb.size = 0 := by
    rw [create_eq_ok hb]
    rfl
  have hcount : ∀ k ∈ Counter.turnover,
      c.counters.get k = UInt64.ofNat (Moment.tallied ms k) := by
    intro k hk
    have hzero := Counters.get_zero k
    have hk' := hgrown k hk
    rw [hcounters, hzero, UInt64.zero_add] at hk'
    exact hk'
  refine ⟨hcount, fun hwraps => ?_, fun f n h => size_fdbFlush h,
    fun port vid origin agedOnly n h => size_handle_fdbFlush h⟩
  have hexact : ∀ k ∈ Counter.turnover, (c.counters.get k).toNat = Moment.tallied ms k := by
    intro k hk
    rw [hcount k hk]
    exact UInt64.toNat_ofNat_of_lt' (hwraps k hk)
  have hlearned : c.counters.learned.toNat = Moment.tallied ms .learned := hexact .learned (by decide)
  have haged : c.counters.aged.toNat = Moment.tallied ms .aged := hexact .aged (by decide)
  have hflushed : c.counters.flushed.toNat = Moment.tallied ms .flushed := hexact .flushed (by decide)
  rw [hempty] at hbalance
  change c.fdb.size + ms.countP (·.replaces) + Moment.tallied ms .aged + Moment.tallied ms .flushed
    + ms.countP (·.removes) = 0 + Moment.tallied ms .learned + ms.countP (·.installs) at hbalance
  omega

/-- Five stations are heard. A static entry takes the place of the first one's, another is installed and
removed again, two are flushed and one ages; a static and a dynamic one are left. -/
theorem size_eq_balance_two :
    let hello (n : UInt8) := Frame.ethernet Mac.broadcast ⟨2, 0, 0, 0, 0, n⟩ EtherType.ipv4 []
    let key (n : UInt8) := Key.mac Vid.zero ⟨2, 0, 0, 0, 0, n⟩
    let events : List Event := [.request (.portAdd "eth0" {}), .request (.portAdd "eth1" {}),
      .receive ⟨1, 1⟩ (hello 11), .receive ⟨2, 1⟩ (hello 12), .receive ⟨2, 1⟩ (hello 13),
      .request (.fdbAdd (key 11) ["eth1"] .user), .request (.fdbAdd (key 14) ["eth0"] .external),
      .request (.fdbDel (key 14)), .request (.fdbFlush (some "eth1") none (some .dynamic) false),
      .receive ⟨1, 1⟩ (hello 15), .clock 200000000000, .receive ⟨2, 1⟩ (hello 16),
      .wake 400000000000]
    let c := (beside ["eth0", "eth1"]).run events
    let ms := (beside ["eth0", "eth1"]).history events
    (∀ k ∈ Counter.turnover, Moment.tallied ms k < UInt64.size) ∧
    (c.fdb.size : Int) = c.counters.learned.toNat + ms.countP (·.installs)
      - ms.countP (·.replaces) - c.counters.aged.toNat - c.counters.flushed.toNat
      - ms.countP (·.removes) ∧
    (c.fdbFlush FlushFilter.all).2 = .ok 2 ∧
    (c.fdbFlush FlushFilter.all).1.fdb.size + 2 = c.fdb.size ∧
    (c.handle (.fdbFlush none none none false)).2 = .ok (.flushed 2) ∧
    (c.handle (.fdbFlush none none none false)).1.fdb.size + 2 = c.fdb.size := by
  intro hello key events
  have hwraps : ∀ k ∈ Counter.turnover,
      Moment.tallied ((beside ["eth0", "eth1"]).history events) k < UInt64.size := by decide +kernel
  have hanswer : (((beside ["eth0", "eth1"]).run events).fdbFlush FlushFilter.all).2 = .ok 2 := by
    decide +kernel
  have hresponse : (((beside ["eth0", "eth1"]).run events).handle
      (.fdbFlush none none none false)).2 = .ok (.flushed 2) := by decide +kernel
  have hbalance := size_eq_balance (create_beside ["eth0", "eth1"]) events
  exact ⟨hwraps, hbalance.2.1 hwraps, hanswer, hbalance.2.2.1 _ _ hanswer, hresponse,
    hbalance.2.2.2 _ _ _ _ _ hresponse⟩

end Bridge

end VlanBridge
