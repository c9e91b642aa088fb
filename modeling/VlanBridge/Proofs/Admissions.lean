import VlanBridge.Proofs.Forwarding
/-!
# What is decided about a frame

A frame that is not classified is dropped and changes nothing. A classified one first has its source
learned; `judge` is what is decided about it then: the trap takes it, it may not enter its VLAN, or it is
sent on its way. Every fact about a frame that comes in is told from these cases.
-/

namespace VlanBridge

open VlanBridge.Net

/-- The frame is dropped before its VLAN is known. -/
def DropReason.IsEarly (reason : DropReason) : Prop :=
  reason = .portInactive ∨ reason = .runt ∨ reason = .tagParse

/-- A frame that cannot be classified has a tag that cannot be read. -/
theorem VlanDb.classify_eq_error {db : VlanDb} {p : Port} {f : Frame} {proto : EtherType}
    {reason : DropReason} (h : db.classify p f proto = .error reason) : reason = .tagParse := by
  unfold classify normalizeTag at h
  split at h
  · rename_i hnormal
    split at hnormal
    · cases hnormal
    · split at hnormal
      · cases hnormal
        cases h
        rfl
      · cases hnormal
      · cases hnormal
  · cases h

namespace Bridge

variable {b : Bridge} {h : Handle} {f g : Frame} {p : Port} {c : Classification}

/-- What is decided about a classified frame whose source has been learned. -/
def judge (b : Bridge) (p : Port) (c : Classification) (g : Frame) (dst : Mac) : Bridge × Admission :=
  if b.isTrapped p.index c.vid g then (b, .trapped p.index c.vid g)
  else match c.record with
    | some r => if c.allowed then b.route p r c.vid g dst else (b, .dropped .vlanNotAllowed)
    | none => (b, .dropped .vlanNotAllowed)

theorem judge_cases (b : Bridge) (p : Port) (c : Classification) (g : Frame) (dst : Mac) :
    b.judge p c g dst = (b, .trapped p.index c.vid g) ∨
      b.judge p c g dst = (b, .dropped .vlanNotAllowed) ∨
      ∃ r, c.record = some r ∧ b.judge p c g dst = b.route p r c.vid g dst := by
  unfold judge
  split
  · exact Or.inl rfl
  · split
    · rename_i r hr
      split
      · exact Or.inr (Or.inr ⟨r, hr, rfl⟩)
      · exact Or.inr (Or.inl rfl)
    · exact Or.inr (Or.inl rfl)

/-! ### Deciding -/

theorem classified?_eq_some_iff :
    b.classified? h f = some (p, c, g) ↔
      b.ports.resolve h = .ok p ∧ p.index ∈ b.ports.active ∧ f.hasHeader = true ∧
        b.vlans.classify p f b.config.vlanProtocol = .ok (c, g) := by
  constructor
  · intro hc
    obtain ⟨hp, hclassify⟩ := classified?_eq_some hc
    unfold classified? at hc
    simp only [hp] at hc
    split at hc
    · rename_i hin
      exact ⟨hp, hin.1, hin.2, hclassify⟩
    · cases hc
  · rintro ⟨hp, hactive, hheader, hclassify⟩
    exact classified?_eq hp hactive hheader hclassify

theorem assess_of_classified {dst src : Mac} (hc : b.classified? h f = some (p, c, g))
    (hdst : f.dst? = some dst) (hsrc : f.src? = some src) :
    b.assess h f = (b.learnSource p c src).judge p c g dst := by
  obtain ⟨hp, hactive, hheader, hclassify⟩ := classified?_eq_some_iff.1 hc
  unfold assess assessFrom
  simp only [hp, hactive, not_true_eq_false, if_false, hheader, Bool.not_true, Bool.false_eq_true,
    hdst, hsrc, hclassify]
  rfl

theorem assess_of_unclassified (hc : b.classified? h f = none) :
    ∃ reason, reason.IsEarly ∧ b.assess h f = (b, .dropped reason) := by
  cases hp : b.ports.resolve h with
  | error e =>
    refine ⟨.portInactive, Or.inl rfl, ?_⟩
    unfold assess
    simp only [hp]
  | ok p =>
    by_cases hactive : p.index ∈ b.ports.active
    · by_cases hheader : f.hasHeader = true
      · obtain ⟨dst, src, hdst, hsrc⟩ := exists_addresses hheader
        cases hclassify : b.vlans.classify p f b.config.vlanProtocol with
        | error reason =>
          refine ⟨reason, Or.inr (Or.inr ?_), ?_⟩
          · exact VlanDb.classify_eq_error hclassify
          · unfold assess assessFrom
            simp only [hp, hactive, not_true_eq_false, if_false, hheader, Bool.not_true,
              Bool.false_eq_true, hdst, hsrc, hclassify]
        | ok classified =>
          obtain ⟨c, g⟩ := classified
          rw [classified?_eq hp hactive hheader hclassify] at hc
          cases hc
      · refine ⟨.runt, Or.inr (Or.inl rfl), ?_⟩
        unfold assess
        simp only [hp, hactive, not_true_eq_false, if_false, hheader, Bool.not_false, if_true]
    · refine ⟨.portInactive, Or.inl rfl, ?_⟩
      unfold assess
      simp only [hp, hactive, not_false_eq_true, if_true]

/-! ### Receiving -/

theorem receive_of_dropped {l : Bridge} {reason : DropReason}
    (ha : b.enter.1.assess h f = (l, .dropped reason)) :
    b.receive h f = (l.leave b.enter.2 (.dropped reason), { verdict := .dropped reason }) := by
  unfold receive
  simp only [ha]

theorem receive_of_trapped {l : Bridge} {i : PortIndex} {vid : Vid}
    (ha : b.enter.1.assess h f = (l, .trapped i vid g)) :
    b.receive h f = ((l.count .trapped).leave b.enter.2 .trapped,
      { verdict := .trapped, trapped := some (i, vid, g) }) := by
  unfold receive
  simp only [ha]

/-- The flight of a frame that may enter its VLAN; it may have no targets. -/
def flightOf (b : Bridge) (p : Port) (r : VlanRecord) (vid : Vid) (g : Frame) (dst : Mac) : Flight :=
  ⟨r.serial, r.vlan.vid, g,
    (b.reachable p r.vlan (b.resolve r.vlan vid g dst).1).toList.filterMap b.ports.port?⟩

/-- The courses that a frame which comes in can take, with what they come to. -/
inductive Course (b : Bridge) (h : Handle) (f : Frame) : Bridge × Reception → Prop where
  | unclassified {reason : DropReason} (hearly : reason.IsEarly) (hc : b.classified? h f = none) :
      Course b h f (b.enter.1.leave b.enter.2 (.dropped reason), { verdict := .dropped reason })
  | trapped {p : Port} {c : Classification} {g : Frame} {src : Mac}
      (hc : b.classified? h f = some (p, c, g)) (hsrc : f.src? = some src) :
      Course b h f (((b.enter.1.learnSource p c src).count .trapped).leave b.enter.2 .trapped,
        { verdict := .trapped, trapped := some (p.index, c.vid, g) })
  | notAllowed {p : Port} {c : Classification} {g : Frame} {src : Mac}
      (hc : b.classified? h f = some (p, c, g)) (hsrc : f.src? = some src) :
      Course b h f ((b.enter.1.learnSource p c src).leave b.enter.2 (.dropped .vlanNotAllowed),
        { verdict := .dropped .vlanNotAllowed })
  | sent {p : Port} {c : Classification} {g : Frame} {dst src : Mac} {r : VlanRecord}
      {l : Bridge} {flight : Flight} {after : Bridge × List Emission}
      (hc : b.classified? h f = some (p, c, g)) (hdst : f.dst? = some dst)
      (hsrc : f.src? = some src) (hr : c.record = some r)
      (hl : l = b.enter.1.learnSource p c src) (hflight : flight = l.flightOf p r c.vid g dst)
      (hafter : after = sendAll flight flight.targets (l.count (l.resolve r.vlan c.vid g dst).2)) :
      Course b h f (after.1.leave b.enter.2 (verdictOf after.2),
        { verdict := verdictOf after.2, sent := after.2 })

theorem course_receive (b : Bridge) (h : Handle) (f : Frame) : Course b h f (b.receive h f) := by
  cases hc : b.classified? h f with
  | none =>
    obtain ⟨reason, hearly, ha⟩ := assess_of_unclassified (b := b.enter.1) hc
    rw [receive_of_dropped ha]
    exact .unclassified hearly hc
  | some classified =>
    obtain ⟨p, c, g⟩ := classified
    obtain ⟨-, -, hheader, -⟩ := classified?_eq_some_iff.1 hc
    obtain ⟨dst, src, hdst, hsrc⟩ := exists_addresses hheader
    have ha := assess_of_classified (b := b.enter.1) hc hdst hsrc
    rcases judge_cases (b.enter.1.learnSource p c src) p c g dst with hj | hj | ⟨r, hr, hj⟩
    · rw [receive_of_trapped (ha.trans hj)]
      exact .trapped hc hsrc
    · rw [receive_of_dropped (ha.trans hj)]
      exact .notAllowed hc hsrc
    · rw [receive_eq_of_route (ha.trans hj)]
      exact .sent hc hdst hsrc hr rfl rfl rfl

/-- A frame that is sent has been classified. It goes on as it was classified, with a tag of its VLAN to
the tagged members and with none to the others. -/
theorem exists_classified_of_mem_sent (hs : b.Sound) {e : Emission}
    (he : e ∈ (b.receive h f).2.sent) :
    ∃ p c g r, b.classified? h f = some (p, c, g) ∧ b.vlans.find? c.vid = some r ∧
      e.frame = { g with
        tag := if e.port ∈ r.vlan.tagged then some {
            proto := b.config.vlanProtocol
            priority := (g.tag.map (·.priority)).getD 0
            dropEligible := (g.tag.map (·.dropEligible)).getD false
            vid := c.vid }
          else none } := by
  have hcourse := course_receive b h f
  generalize b.receive h f = o at hcourse he
  cases hcourse with
  | unclassified => cases he
  | trapped => cases he
  | notAllowed => cases he
  | @sent p c g dst src r l flight after hc _ _ hr hl hflight hafter =>
    obtain ⟨-, hclassify⟩ := classified?_eq_some hc
    obtain ⟨cs, hsame⟩ := learnSource_fst b.enter.1 p c src
    rw [← hl] at hsame
    rw [hafter, sendAll_snd] at he
    obtain ⟨q, -, rfl⟩ := List.mem_map.1 he
    have hfind : b.vlans.find? c.vid = some r := by
      rw [← (VlanDb.classify_eq_ok hclassify).2]
      exact hr
    have hrecord : b.vlans.record? r.serial = some r.vlan :=
      hs.vlans.record?_of_mem (VlanDb.mem_of_find? hfind)
    refine ⟨p, c, g, r, hc, hfind, ?_⟩
    subst hflight
    rw [hsame]
    rw [outgoing_eq hrecord]
    simp only [flightOf, VlanDb.find?_vid hfind]
    rfl

end Bridge

end VlanBridge
