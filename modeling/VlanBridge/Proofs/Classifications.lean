import VlanBridge.Proofs.FramesInPlace
/-!
# Every frame that may come in

A frame carries its tag beside the octets or among them, and one beside wins. A tag of another protocol
among the octets is payload; a tag of another protocol beside them counts, and gets the bridge's protocol. One
thing can go wrong: the frame holds a tag among its octets that cannot be read (`Frame.HoldsBadTag`), and then
it is left alone. All other frames are `Frame.Normalized`, and the VLAN follows from the tag and the port
(`classify_cases`). The steps are taken on a frame in place, where the tag is looked at before it gets its
new protocol (`classifyInPlace`).
-/

namespace VlanBridge

open VlanBridge.Net

namespace Frame

variable {f g : Frame} {proto : EtherType}

/-- The octets have a tag where the frame has none beside them, and it is cut short or its identifier is
reserved. -/
def HoldsBadTag (f : Frame) (proto : EtherType) : Prop :=
  f.tag = none ∧ f.etherType? = some proto ∧ (f.payload.length < 4 ∨ f.controlWord % 4096 = 4095)

instance (f : Frame) (proto : EtherType) : Decidable (f.HoldsBadTag proto) :=
  inferInstanceAs (Decidable (_ ∧ _ ∧ _))

/-- An ether type has to follow the tag. -/
example :
    let tagged (rest : List UInt8) :=
      ethernet Mac.broadcast ⟨2, 0, 0, 0, 0, 9⟩ EtherType.dot1q ([0, 10, 8] ++ rest)
    (tagged []).HoldsBadTag EtherType.dot1q ∧ ¬ (tagged [6]).HoldsBadTag EtherType.dot1q ∧
      ¬ (tagged []).HoldsBadTag EtherType.dot1ad := by
  decide +kernel

/-- What becomes of a frame whose tag, if it has one, can be read. -/
inductive Normalized (proto : EtherType) (f : Frame) : Frame → Prop where
  /-- The tag beside the octets gets the protocol; the octets stay, whatever is among them. -/
  | beside {t : Tag} (htag : f.tag = some t) :
      Normalized proto f { data := f.data, tag := some ⟨proto, t.priority, t.dropEligible, t.vid⟩ }
  /-- The four octets of the tag are taken out. -/
  | among {t : Tag} (htag : f.tag = none) (htype : f.etherType? = some proto)
      (hspells : t.Spells proto f.controlWord) :
      Normalized proto f { data := f.data.take 12 ++ f.data.drop 16, tag := some t }
  | untagged (htag : f.tag = none) (htype : f.etherType? ≠ some proto) : Normalized proto f f

theorem addresses_untag (h : f.untag proto = .ok (some g)) : g.dst? = f.dst? ∧ g.src? = f.src? := by
  have hwire := wire_untag h
  obtain ⟨htype, hlong, t, -, rfl⟩ := untag_eq_some_iff.1 h
  have hlength : f.payload.length = f.data.length - 14 := List.length_drop
  have hdata : 14 ≤ (dropTag f.data).length := by
    rw [dropTag, List.length_append, List.length_take, List.length_drop, etherTypeOffset, tagLength]
    omega
  have haddresses := addresses_wire (t := t) hdata
  rw [hwire] at haddresses
  exact ⟨haddresses.1.symm, haddresses.2.symm⟩

end Frame

namespace VlanDb

variable {f g : Frame} {proto : EtherType}

theorem normalizeTag_of_bad (h : f.HoldsBadTag proto) : normalizeTag proto f = .error .tagParse := by
  obtain ⟨htag, hbad⟩ := h
  obtain ⟨e, huntag⟩ := Frame.exists_untag_error_iff.2 hbad
  unfold normalizeTag
  rw [htag, huntag]

theorem normalizeTag_of_tag {t : Tag} (htag : f.tag = some t) :
    normalizeTag proto f = .ok (f.withTag (some (t.withProto proto))) := by
  unfold normalizeTag
  rw [htag]

theorem normalizeTag_of_untag (htag : f.tag = none) {out : Option Frame}
    (h : f.untag proto = .ok out) : normalizeTag proto f = .ok (out.getD f) := by
  unfold normalizeTag
  rw [htag, h]
  cases out with
  | none => rfl
  | some g => rfl

/-- A frame without a bad tag is normalized, and its addresses are where they were. -/
theorem exists_normalizeTag (h : ¬ f.HoldsBadTag proto) :
    ∃ g, normalizeTag proto f = .ok g ∧ f.Normalized proto g ∧ g.dst? = f.dst? ∧ g.src? = f.src? := by
  cases htag : f.tag with
  | some t => exact ⟨_, normalizeTag_of_tag htag, .beside htag, rfl, rfl⟩
  | none =>
    cases huntag : f.untag proto with
    | error e => exact absurd ⟨htag, Frame.exists_untag_error_iff.1 ⟨e, huntag⟩⟩ h
    | ok out =>
      refine ⟨out.getD f, normalizeTag_of_untag htag huntag, ?_⟩
      cases out with
      | none => exact ⟨.untagged htag (Frame.untag_eq_none_iff.1 huntag), rfl, rfl⟩
      | some g =>
        have haddresses := Frame.addresses_untag huntag
        obtain ⟨htype, -, t, hspells, rfl⟩ := Frame.untag_eq_some_iff.1 huntag
        exact ⟨.among htag htype hspells, haddresses⟩

/-! ### The VLAN of an identifier -/

/-- What is found out about a frame at a port once its identifier is known. -/
def lookUp (db : VlanDb) (p : Port) (vid : Vid) : Classification where
  vid := vid
  record := db.find? vid
  allowed := match db.find? vid with
    | some r => p.index ∈ r.vlan.members || !p.ingress.vlanFiltering
    | none => false

theorem classify_eq_lookUp (db : VlanDb) (p : Port) (h : normalizeTag proto f = .ok g) :
    db.classify p f proto = .ok (db.lookUp p (effectiveVid p g.tag), g) := by
  unfold classify
  rw [h]
  rfl

theorem allowed_lookUp_iff {db : VlanDb} {p : Port} {vid : Vid} :
    (db.lookUp p vid).allowed = true ↔
      ∃ r, db.find? vid = some r ∧ (p.index ∈ r.vlan.members ∨ p.ingress.vlanFiltering = false) := by
  unfold lookUp
  cases db.find? vid with
  | none => exact iff_of_false nofun nofun
  | some r =>
    simp only [Bool.or_eq_true, decide_eq_true_eq, Bool.not_eq_true', Option.some.injEq, exists_eq_left']

theorem effectiveVid_of_ne {p : Port} {t : Tag} (h : t.vid ≠ Vid.zero) :
    effectiveVid p (some t) = t.vid :=
  if_neg (mt Vid.isZero_iff.1 h)

theorem effectiveVid_of_forall {p : Port} {tag : Option Tag}
    (h : ∀ t, tag = some t → t.vid = Vid.zero) : effectiveVid p tag = p.pvid := by
  cases tag with
  | none => rfl
  | some t => exact if_pos (Vid.isZero_iff.2 (h t rfl))

/-! ### One step after the other -/

/-- Reads the VLAN off the tag beside the octets, and gives that tag the protocol afterwards. -/
def settle (db : VlanDb) (p : Port) (proto : EtherType) : EStateM DropReason Frame Classification := do
  let g ← get
  match g.tag with
  | some t => if t.proto ≠ proto then set (g.withTag (some (t.withProto proto)))
  | none => pure ()
  return db.lookUp p (effectiveVid p g.tag)

/-- Finds the VLAN of a frame that comes in at a port, and changes the frame on the way. -/
def classifyInPlace (db : VlanDb) (p : Port) (proto : EtherType) :
    EStateM DropReason Frame Classification := do
  let f ← get
  if f.tag = none then
    let _ ← EStateM.adaptExcept (fun _ => .tagParse) (Frame.untagInPlace proto)
    settle db p proto
  else settle db p proto

theorem settle_eq (db : VlanDb) (p : Port) (proto : EtherType) (g : Frame) :
    settle db p proto g = .ok (db.lookUp p (effectiveVid p g.tag))
      (g.withTag (g.tag.map (·.withProto proto))) := by
  obtain ⟨data, tag⟩ := g
  cases tag with
  | none => rfl
  | some t =>
    obtain ⟨own, priority, dropEligible, vid⟩ := t
    by_cases hproto : own = proto
    · subst hproto
      have hstays : ¬ own ≠ own := not_not.2 rfl
      unfold settle
      show (if own ≠ own then _ else _ : EStateM DropReason Frame Classification) _ = _
      rw [if_neg hstays]
      rfl
    · unfold settle
      show (if own ≠ proto then _ else _ : EStateM DropReason Frame Classification) _ = _
      rw [if_pos hproto]
      rfl

/-- The answer is the one of `classify`, and so is the frame; where that gives none, the frame stays. -/
theorem classifyInPlace_eq (db : VlanDb) (p : Port) (proto : EtherType) (f : Frame) :
    classifyInPlace db p proto f = match db.classify p f proto with
      | .error reason => .error reason f
      | .ok (c, g) => .ok c g := by
  unfold classifyInPlace
  show (if f.tag = none then _ else _ : EStateM DropReason Frame Classification) f = _
  cases htag : f.tag with
  | some t =>
    rw [if_neg (Option.some_ne_none t), classify_eq_lookUp db p (normalizeTag_of_tag htag), settle_eq,
      htag]
    rfl
  | none =>
    rw [if_pos rfl]
    simp only [bind, EStateM.bind, EStateM.adaptExcept, Frame.untagInPlace_eq, settle_eq]
    cases huntag : f.untag proto with
    | error e =>
      have hbad := normalizeTag_of_bad ⟨htag, Frame.exists_untag_error_iff.1 ⟨e, huntag⟩⟩
      simp only [classify, hbad]
    | ok out =>
      rw [classify_eq_lookUp db p (normalizeTag_of_untag htag huntag)]
      cases out with
      | none =>
        have hsame : f.withTag (f.tag.map (·.withProto proto)) = f := by
          rw [htag]
          exact congrArg (Frame.mk f.data) htag.symm
        simp only [Option.getD_none, hsame]
      | some g =>
        -- a tag that has been taken out has the protocol already
        obtain ⟨-, -, t, hspells, rfl⟩ := Frame.untag_eq_some_iff.1 huntag
        have hown : t.withProto proto = t := by
          rw [← hspells.proto]
          rfl
        simp only [Option.getD_some, Frame.withTag, Option.map_some, hown]

/-! ### All cases -/

/-- What is found out about a frame that has a certain tag, or none, once it stands beside the octets. -/
structure Classified (db : VlanDb) (p : Port) (tag : Option Tag) (c : Classification) : Prop where
  vid_of_tag : ∀ t, tag = some t → t.vid ≠ Vid.zero → c.vid = t.vid
  vid_of_port : (∀ t, tag = some t → t.vid = Vid.zero) → c.vid = p.pvid
  record : c.record = db.find? c.vid
  known : ∀ r, c.record = some r → r ∈ db.published ∧ r.vlan.vid = c.vid
  unknown : c.record = none → ∀ r ∈ db.published, r.vlan.vid ≠ c.vid
  allowed : c.allowed = true ↔
    ∃ r, c.record = some r ∧ (p.index ∈ r.vlan.members ∨ p.ingress.vlanFiltering = false)

theorem classified_lookUp (db : VlanDb) (p : Port) (tag : Option Tag) :
    Classified db p tag (db.lookUp p (effectiveVid p tag)) where
  vid_of_tag := by
    rintro t rfl hvid
    exact effectiveVid_of_ne hvid
  vid_of_port := effectiveVid_of_forall
  record := rfl
  known _ hr := ⟨mem_of_find? hr, find?_vid hr⟩
  unknown hnone _ hr hvid := by
    have hhas := has_iff.2 ⟨_, hr, hvid⟩
    have hfind : db.find? (effectiveVid p tag) = none := hnone
    simp only [lookUp, Has, hfind, Option.isSome_none, Bool.false_eq_true] at hhas
  allowed := allowed_lookUp_iff

/-- A frame is refused just if it holds a tag that cannot be read, and then it stays as it is. Any other frame
is normalized, finds the VLAN of its tag or of the port, and keeps its addresses. -/
theorem classify_cases (db : VlanDb) (p : Port) (f : Frame) (proto : EtherType) :
    (f.HoldsBadTag proto ∧ db.classify p f proto = .error .tagParse ∧
        classifyInPlace db p proto f = .error .tagParse f) ∨
      ∃ c g, ¬ f.HoldsBadTag proto ∧ db.classify p f proto = .ok (c, g) ∧
        classifyInPlace db p proto f = .ok c g ∧ f.Normalized proto g ∧ Classified db p g.tag c ∧
          g.dst? = f.dst? ∧ g.src? = f.src? := by
  by_cases hbad : f.HoldsBadTag proto
  · have hclassify : db.classify p f proto = .error .tagParse := by
      unfold classify
      rw [normalizeTag_of_bad hbad]
    have hplace : classifyInPlace db p proto f = .error .tagParse f := by
      rw [classifyInPlace_eq, hclassify]
    exact Or.inl ⟨hbad, hclassify, hplace⟩
  · obtain ⟨g, hnormal, hcase, haddresses⟩ := exists_normalizeTag hbad
    have hclassify := classify_eq_lookUp db p hnormal
    have hplace : classifyInPlace db p proto f = .ok (db.lookUp p (effectiveVid p g.tag)) g := by
      rw [classifyInPlace_eq, hclassify]
    exact Or.inr ⟨_, g, hbad, hclassify, hplace, hcase, classified_lookUp db p g.tag, haddresses⟩

end VlanDb

end VlanBridge
