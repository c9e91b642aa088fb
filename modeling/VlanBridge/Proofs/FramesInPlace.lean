import VlanBridge.Proofs.Trunks
/-!
# Frames changed in place

A bridge takes the tag out of a frame's octets where they stand, and what it has done to the frame before a
step fails stays done. Here the steps are taken one by one, on a frame that is kept beside the answer
(`Frame.untagInPlace`). They come to what `Frame.untag` says, and a failure leaves the frame as it was, since
every test is made before an octet is moved. Taking a tag out and putting it in undo each other
(`untag_undoes_wire`).
-/

namespace VlanBridge

open VlanBridge.Net

/-! ### Control words -/

namespace Net.Tag

/-- The tag has the fields of a control word: three bits of priority, one flag, twelve bits of identifier. -/
structure Spells (t : Tag) (proto : EtherType) (w : Nat) : Prop where
  proto : t.proto = proto
  priority : t.priority.toNat = w / 8192
  dropEligible : t.dropEligible = true ↔ w / 4096 % 2 = 1
  vid : t.vid.number = w % 4096

variable {t : Tag} {proto : EtherType} {w : Nat}

theorem ofWord_eq_ok_iff (hw : w < 65536) : ofWord proto w = .ok t ↔ t.Spells proto w := by
  have hpriority : (UInt8.ofNat (w / 8192 % 8)).toNat = w / 8192 := by
    rw [UInt8.toNat_ofNat']
    omega
  obtain ⟨tproto, priority, dropEligible, vid⟩ := t
  unfold ofWord Vid.ofNat Vid.ofNat?
  by_cases hvid : w % 4096 ≤ 4094
  · simp only [dif_pos hvid, Except.ok.injEq, Tag.mk.injEq]
    constructor
    · rintro ⟨rfl, rfl, rfl, rfl⟩
      exact ⟨rfl, hpriority, beq_iff_eq, rfl⟩
    · rintro ⟨rfl, hp, hd, hv⟩
      refine ⟨rfl, UInt8.toNat_inj.1 (hpriority.trans hp.symm), ?_, Vid.ext hv.symm⟩
      exact Bool.eq_iff_iff.2 (beq_iff_eq.trans hd.symm)
  · simp only [dif_neg hvid]
    refine iff_of_false (fun h => by cases h) ?_
    rintro ⟨-, -, -, hv⟩
    have hle := vid.number_le
    simp only at hv
    omega

/-- Only the reserved identifier makes a control word unreadable. -/
theorem exists_ofWord_iff (proto : EtherType) (w : Nat) :
    (∃ t, ofWord proto w = .ok t) ↔ w % 4096 ≠ 4095 := by
  unfold ofWord Vid.ofNat Vid.ofNat?
  by_cases hvid : w % 4096 ≤ 4094
  · simp only [dif_pos hvid]
    exact iff_of_true ⟨_, rfl⟩ (by omega)
  · simp only [dif_neg hvid]
    exact iff_of_false (by rintro ⟨_, h⟩; cases h) (by omega)

theorem Spells.word_eq (h : t.Spells proto w) (hw : w < 65536) : t.word = w := by
  have hvid := h.vid
  have hpriority := h.priority
  unfold word
  split
  · have hflag := h.dropEligible.1 ‹_›
    omega
  · have hflag := mt h.dropEligible.2 ‹_›
    omega

end Net.Tag

/-- An ether type that is read from two octets is written as these octets. -/
theorem Net.EtherType.octets_ofOctets (hi lo : UInt8) : (ofOctets hi lo).octets = [hi, lo] := by
  have hhi := hi.toNat_lt
  have hlo := lo.toNat_lt
  have hnumber : (ofOctets hi lo).number.toNat = hi.toNat * 256 + lo.toNat := by
    unfold ofOctets
    rw [UInt16.toNat_ofNat', Nat.mod_eq_of_lt (by omega)]
  have hhigh : (hi.toNat * 256 + lo.toNat) / 256 = hi.toNat := by omega
  have hlow : (hi.toNat * 256 + lo.toNat) % 256 = lo.toNat := by omega
  simp only [octets, hnumber, hhigh, hlow, UInt8.ofNat_toNat]

/-- A tag that has the fields of two octets is written as these octets. -/
theorem Net.Tag.Spells.wordOctets_eq {t : Tag} {proto : EtherType} {hi lo : UInt8}
    (h : t.Spells proto (hi.toNat * 256 + lo.toNat)) : t.wordOctets = [hi, lo] := by
  have hhi := hi.toNat_lt
  have hlo := lo.toNat_lt
  have hword := h.word_eq (by omega)
  have hhigh : t.word / 256 = hi.toNat := by omega
  have hlow : t.word % 256 = lo.toNat := by omega
  simp only [wordOctets, hhigh, hlow, UInt8.ofNat_toNat]

namespace Frame

variable {f g : Frame} {proto : EtherType} {t : Tag}

/-- The number in the two octets behind the ether type. -/
def controlWord (f : Frame) : Nat := (f.data.getD 14 0).toNat * 256 + (f.data.getD 15 0).toNat

theorem controlWord_of_payload {hi lo : UInt8} {rest : List UInt8}
    (h : f.payload = hi :: lo :: rest) : f.controlWord = hi.toNat * 256 + lo.toNat := by
  have hdrop : f.data.drop 14 = hi :: lo :: rest := h
  have hfirst : f.data[14]? = some hi := by
    have hget : (f.data.drop 14)[0]? = f.data[14 + 0]? := List.getElem?_drop
    rw [hdrop] at hget
    exact hget.symm
  have hsecond : f.data[15]? = some lo := by
    have hget : (f.data.drop 14)[1]? = f.data[14 + 1]? := List.getElem?_drop
    rw [hdrop] at hget
    exact hget.symm
  simp only [controlWord, List.getD_eq_getElem?_getD, hfirst, hsecond, Option.getD_some]

theorem controlWord_lt (f : Frame) : f.controlWord < 65536 := by
  have hhi := (f.data.getD 14 0).toNat_lt
  have hlo := (f.data.getD 15 0).toNat_lt
  unfold controlWord
  omega

theorem ofOctets_payload_iff :
    Tag.ofOctets proto f.payload = .ok t ↔ 2 ≤ f.payload.length ∧ t.Spells proto f.controlWord := by
  unfold Tag.ofOctets
  split
  · rename_i hi lo rest hpayload
    rw [← controlWord_of_payload hpayload, Tag.ofWord_eq_ok_iff f.controlWord_lt, hpayload]
    exact (and_iff_right (Nat.le_add_left _ _)).symm
  · rename_i hshort
    refine iff_of_false nofun ?_
    rintro ⟨hlength, -⟩
    match hpayload : f.payload, hlength with
    | hi :: lo :: rest, _ => exact hshort hi lo rest hpayload

/-! ### Taking a tag out -/

theorem untag_eq_none_iff : f.untag proto = .ok none ↔ f.etherType? ≠ some proto := by
  unfold untag
  split
  · rename_i htype
    refine iff_of_false (fun h => ?_) (not_not.2 htype)
    split at h
    · cases h
    · split at h <;> cases h
  · exact iff_of_true rfl ‹_›

theorem untag_eq_some_iff : f.untag proto = .ok (some g) ↔
    f.etherType? = some proto ∧ 4 ≤ f.payload.length ∧
      ∃ t : Tag, t.Spells proto f.controlWord ∧ g = { data := dropTag f.data, tag := some t } := by
  have hlength : f.payload.length = f.data.length - 14 := List.length_drop
  unfold untag
  by_cases htype : f.etherType? = some proto
  · rw [if_pos htype, and_iff_right htype]
    cases htag : Tag.ofOctets proto f.payload with
    | error e =>
      refine iff_of_false nofun ?_
      rintro ⟨hlong, t, hspells, -⟩
      rw [ofOctets_payload_iff.2 ⟨by omega, hspells⟩] at htag
      cases htag
    | ok t =>
      obtain ⟨-, hspells⟩ := ofOctets_payload_iff.1 htag
      by_cases hshort : f.data.length < headerLength + tagLength
      · have hshort' : f.data.length < 18 := hshort
        simp only [if_pos hshort]
        exact iff_of_false nofun fun h => by omega
      · have hlong : ¬ f.data.length < 18 := hshort
        simp only [if_neg hshort, Except.ok.injEq, Option.some.injEq]
        constructor
        · rintro rfl
          exact ⟨by omega, t, hspells, rfl⟩
        · rintro ⟨-, t', hspells', rfl⟩
          have hsame := ofOctets_payload_iff.2 ⟨by omega, hspells'⟩
          rw [htag] at hsame
          cases hsame
          rfl
  · rw [if_neg htype]
    exact iff_of_false nofun fun h => htype h.1

/-- A tag is refused just if it is cut short, or not followed by an ether type, or has the reserved
identifier. -/
theorem exists_untag_error_iff : (∃ e, f.untag proto = .error e) ↔
    f.etherType? = some proto ∧ (f.payload.length < 4 ∨ f.controlWord % 4096 = 4095) := by
  have hreadable := Tag.exists_ofWord_iff proto f.controlWord
  simp only [Tag.ofWord_eq_ok_iff f.controlWord_lt] at hreadable
  cases huntag : f.untag proto with
  | error e =>
    refine iff_of_true ⟨e, rfl⟩ ?_
    by_contra hgood
    by_cases htype : f.etherType? = some proto
    · simp only [htype, true_and, not_or, Nat.not_lt] at hgood
      obtain ⟨t, hspells⟩ := hreadable.2 hgood.2
      have hsome := untag_eq_some_iff.2 ⟨htype, hgood.1, t, hspells, rfl⟩
      rw [huntag] at hsome
      cases hsome
    · have hnone := untag_eq_none_iff.2 htype
      rw [huntag] at hnone
      cases hnone
  | ok out =>
    refine iff_of_false nofun ?_
    rintro ⟨htype, hbad⟩
    cases out with
    | none => exact untag_eq_none_iff.1 huntag htype
    | some g =>
      obtain ⟨-, hlong, t, hspells, -⟩ := untag_eq_some_iff.1 huntag
      rcases hbad with hshort | hreserved
      · omega
      · exact hreadable.1 ⟨t, hspells⟩ hreserved

/-! ### Putting it in again -/

theorem drop_of_etherType? (h : f.etherType? = some proto) :
    f.data.drop 12 = proto.octets ++ f.data.drop 14 := by
  have hrest : f.data.drop 14 = (f.data.drop 12).drop 2 := by rw [List.drop_drop]
  unfold etherType? at h
  split at h
  · rename_i hi lo rest hdrop
    have hdrop : f.data.drop 12 = hi :: lo :: rest := hdrop
    cases h
    rw [hrest, hdrop, EtherType.octets_ofOctets]
    rfl
  · cases h

theorem drop_of_spells (hlong : 4 ≤ f.payload.length) (ht : t.Spells proto f.controlWord) :
    f.data.drop 14 = t.wordOctets ++ f.data.drop 16 := by
  have hpayload : f.data.drop 14 = f.payload := rfl
  have hrest : f.data.drop 16 = f.payload.drop 2 := by rw [← hpayload, List.drop_drop]
  rw [hrest, hpayload]
  match hoctets : f.payload, hlong with
  | hi :: lo :: rest, _ =>
    rw [controlWord_of_payload hoctets] at ht
    rw [ht.wordOctets_eq]
    rfl

/-- The tag that has been taken out is put in where it was. -/
theorem wire_untag (h : f.untag proto = .ok (some g)) : g.wire = f.data := by
  obtain ⟨htype, hlong, t, hspells, rfl⟩ := untag_eq_some_iff.1 h
  have hlength : f.payload.length = f.data.length - 14 := List.length_drop
  have hfront : (f.data.take 12).length = 12 := by
    rw [List.length_take]
    omega
  have htag : f.data.drop 12 = t.octets ++ f.data.drop 16 := by
    rw [drop_of_etherType? htype, drop_of_spells hlong hspells, Tag.octets, hspells.proto,
      List.append_assoc]
  have htake : (dropTag f.data).take 12 = f.data.take 12 := List.take_left' hfront
  have hdrop : (dropTag f.data).drop 12 = f.data.drop 16 := List.drop_left' hfront
  calc wire { data := dropTag f.data, tag := some t }
      = (dropTag f.data).take 12 ++ t.octets ++ (dropTag f.data).drop 12 := rfl
    _ = f.data.take 12 ++ f.data.drop 12 := by rw [htake, hdrop, htag, List.append_assoc]
    _ = f.data := List.take_append_drop ..

/-! ### One step after the other -/

/-- Takes a tag of a protocol out of the octets and puts it beside them; gives the tag. -/
def untagInPlace (proto : EtherType) : EStateM Malformed Frame (Option Tag) := do
  let f ← get
  if f.etherType? = some proto then
    match Tag.ofOctets proto f.payload with
    | .error e => throw e
    | .ok tag =>
      if f.data.length < headerLength + tagLength then
        throw (.truncatedTag (f.data.length - headerLength))
      modify fun f => { f with data := dropTag f.data }
      modify (·.withTag (some tag))
      return some tag
  else return none

/-- The tag is given and the frame is changed as `untag` says; where it gives no frame, the frame stays. -/
theorem untagInPlace_eq (proto : EtherType) (f : Frame) :
    untagInPlace proto f = match f.untag proto with
      | .error e => .error e f
      | .ok none => .ok none f
      | .ok (some g) => .ok g.tag g := by
  unfold untag untagInPlace
  show (if f.etherType? = some proto then _ else _ : EStateM Malformed Frame (Option Tag)) f = _
  by_cases htype : f.etherType? = some proto
  · rw [if_pos htype, if_pos htype]
    cases Tag.ofOctets proto f.payload with
    | error e => rfl
    | ok tag =>
      by_cases hshort : f.data.length < headerLength + tagLength
      · simp only [if_pos hshort]
        rfl
      · simp only [if_neg hshort]
        rfl
  · rw [if_neg htype, if_neg htype]
    rfl

/-- A tag that is put among the octets of a frame with a full header comes out as it was and leaves the frame
as it was. Whatever octets a frame has: a tag that comes out of them is put in where it was, and if none
comes out, or one that cannot be read, the frame stays as it is. -/
theorem untag_undoes_wire :
    (∀ (data : List UInt8) (t : Tag), 14 ≤ data.length → t.priority.toNat < 8 →
      untagInPlace t.proto { data := wire { data, tag := some t } } =
        .ok (some t) { data, tag := some t }) ∧
    ∀ (f : Frame) (proto : EtherType),
      match untagInPlace proto f with
      | .ok (some t) g =>
        g.tag = some t ∧ t.proto = proto ∧ g.wire = f.data ∧ f.untag proto = .ok (some g)
      | .ok none g => g = f ∧ f.untag proto = .ok none
      | .error e g => g = f ∧ f.untag proto = .error e := by
  refine ⟨fun data t hdata hpriority => ?_, fun f proto => ?_⟩
  · rw [untagInPlace_eq, untag_wire hdata, Tag.arrived_of_lt hpriority]
  · rw [untagInPlace_eq]
    cases huntag : f.untag proto with
    | error e => exact ⟨rfl, rfl⟩
    | ok out =>
      cases out with
      | none => exact ⟨rfl, rfl⟩
      | some g =>
        obtain ⟨-, -, t, hspells, rfl⟩ := untag_eq_some_iff.1 huntag
        exact ⟨rfl, hspells.proto, wire_untag huntag, rfl⟩

/-- A header and nothing else gets a service tag and loses it again. A frame of 18 octets loses its customer
tag and gets it back; with the reserved identifier it stays as it is. -/
theorem untag_undoes_wire_shortest :
    let header := (ethernet Mac.broadcast ⟨2, 0, 0, 0, 0, 9⟩ EtherType.ipv4 []).data
    let service : Tag := ⟨EtherType.dot1ad, 5, true, ⟨100, Nat.le_of_ble_eq_true rfl⟩⟩
    let customer (lo : UInt8) :=
      ethernet Mac.broadcast ⟨2, 0, 0, 0, 0, 9⟩ EtherType.dot1q [0xef, lo, 8, 0]
    let tag : Tag := ⟨EtherType.dot1q, 7, false, ⟨4094, Nat.le_of_ble_eq_true rfl⟩⟩
    untagInPlace EtherType.dot1ad { data := wire { data := header, tag := some service } } =
      .ok (some service) { data := header, tag := some service } ∧
    untagInPlace EtherType.dot1q (customer 0xfe) = .ok (some tag) { data := header, tag := some tag } ∧
    wire { data := header, tag := some tag } = (customer 0xfe).data ∧
    untagInPlace EtherType.dot1q (customer 0xff) = .error (.vid 4095) (customer 0xff) := by
  intro header service customer tag
  obtain ⟨hthere, hback⟩ := untag_undoes_wire
  have hgood : (customer 0xfe).untag EtherType.dot1q =
      .ok (some { data := header, tag := some tag }) := by decide +kernel
  have hbad : (customer 0xff).untag EtherType.dot1q = .error (.vid 4095) := by decide +kernel
  have htag : untagInPlace EtherType.dot1q (customer 0xfe) =
      .ok (some tag) { data := header, tag := some tag } := by rw [untagInPlace_eq, hgood]
  have hreserved : untagInPlace EtherType.dot1q (customer 0xff) =
      .error (.vid 4095) (customer 0xff) := by rw [untagInPlace_eq, hbad]
  have hwire := hback (customer 0xfe) EtherType.dot1q
  rw [htag] at hwire
  obtain ⟨-, -, hwire, -⟩ := hwire
  exact ⟨hthere header service (by decide) (by decide), htag, hwire, hreserved⟩

end Frame

end VlanBridge
