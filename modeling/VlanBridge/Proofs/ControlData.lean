import VlanBridge.Codec.Control
import VlanBridge.Proofs.AddressTexts
/-!
# What crosses the control channel

Requests and responses are written as data and read again. Each part is read back from what is written of
it, under every source: a set of ports is listed in order and collected again, an address is written with
its kind and read by it, a number is read if it fits into a word of 64 bits. A request has no numbers but
identifiers, so it is always read back; of a response the numbers have to be words (`Fits`), and those that
have been read are. So reading, writing and reading again gives what was read first, whatever was left out
of the data or repeated in it.
-/

namespace VlanBridge

open VlanBridge.Net VlanBridge.Data

namespace Data.Value

variable {α : Type}

theorem word64?_nat {n : Nat} (h : n < UInt64.size) : (nat n).word64? = some n :=
  nat?_nat (Nat.le_sub_one_of_lt h)

theorem lt_of_word64? {v : Value} {n : Nat} (h : v.word64? = some n) : n < UInt64.size := by
  unfold word64? nat? at h
  split at h
  · split at h
    · cases h
      exact Nat.lt_of_le_of_lt ‹_› (by decide)
    · cases h
  · cases h

theorem list?_map {read : Value → Option α} {write : α → Value} {as : List α}
    (h : ∀ a ∈ as, read (write a) = some a) : list? read (.arr (as.map write)) = some as :=
  readAll_map as h

theorem exists_of_mem_readAll {read : Value → Option α} {vs : List Value} {as : List α}
    (h : readAll read vs = some as) {a : α} (ha : a ∈ as) : ∃ u, read u = some a := by
  induction vs generalizing as with
  | nil =>
    cases h
    cases ha
  | cons v vs ih =>
    unfold readAll at h
    split at h
    · rename_i b bs hb hbs
      cases h
      rcases List.mem_cons.1 ha with rfl | ha
      · exact ⟨v, hb⟩
      · exact ih hbs ha
    · cases h

/-- What is read of a list is read of its items. -/
theorem exists_of_mem_list? {read : Value → Option α} {v : Value} {as : List α}
    (h : list? read v = some as) {a : α} (ha : a ∈ as) : ∃ u, read u = some a := by
  cases v with
  | arr vs => exact exists_of_mem_readAll h ha
  | _ => cases h

theorem option?_ofOption {read : Value → Option α} {write : α → Value} (o : Option α)
    (hread : ∀ a, read (write a) = some a) (hnull : ∀ a, write a ≠ .null) :
    option? read (ofOption write o) = some o := by
  cases o with
  | none => rfl
  | some a =>
    show option? read (write a) = _
    have ha := hnull a
    unfold option?
    split
    · exact absurd ‹_› ha
    · rw [hread]
      rfl

/-- A record that has no other fields than those that are asked for, under every source. -/
theorem fieldsFrom?_obj {names : List String} {fs : Fields} (source : Source)
    (h : ∀ f ∈ fs, f.1 ∈ names) : fieldsFrom? source names (.obj fs) = some fs := by
  have hother : fs.filter (·.1 ∉ names) = [] :=
    List.filter_eq_nil_iff.2 fun f hf => by simpa using h f hf
  cases source with
  | file =>
    unfold fieldsFrom?
    simp only [hother]
    rfl
  | direct => rfl
  | tagged => rfl

/-- A tagged record comes apart into its tag and its other fields. -/
theorem tagged?_obj {tag name : String} {fs : Fields} (h : ∀ f ∈ fs, f.1 ≠ tag) :
    tagged? tag (.obj ((tag, .str name) :: fs)) = some (name, .obj fs) := by
  have hrest : fs.filter (·.1 != tag) = fs :=
    List.filter_eq_self.2 fun f hf => bne_iff_ne.2 (h f hf)
  simp [tagged?, hrest]

end Data.Value

/-! ### Fields by their names -/

namespace Data.Fields

variable {α : Type} (fs : Fields) (name other : String) (v : Value) (read : Value → Option α)

@[simp] theorem required_cons : required ((other, v) :: fs) name read =
    if name = other then read v else required fs name read := by
  unfold required
  rw [List.lookup_cons]
  by_cases h : name = other
  · simp [h]
  · simp [h, beq_false_of_ne h]

@[simp] theorem defaulted_cons (fallback : α) : defaulted ((other, v) :: fs) name fallback read =
    if name = other then read v else defaulted fs name fallback read := by
  unfold defaulted
  rw [List.lookup_cons]
  by_cases h : name = other
  · simp [h]
  · simp [h, beq_false_of_ne h]

@[simp] theorem nullable_cons : nullable ((other, v) :: fs) name read =
    if name = other then v.option? read else nullable fs name read :=
  defaulted_cons fs name other v _ none

end Data.Fields

/-! ### What a bridge shows -/

theorem PortSet.ofNats?_toNats (s : PortSet) : ofNats? s.toNats = .ok s := by
  have hnone : s.toNats.find? (maxPorts ≤ ·) = none := by
    refine List.find?_eq_none.2 fun n hn => ?_
    obtain ⟨i, -, rfl⟩ := List.mem_map.1 hn
    simp
  have hslots : s.toNats.filterMap PortIndex.ofNat? = s.toList := by
    have hback : PortIndex.ofNat? ∘ (fun i : PortIndex => i.val) = some :=
      funext PortIndex.ofNat?_val
    unfold toNats
    rw [List.filterMap_map, hback, List.filterMap_some]
  unfold ofNats?
  rw [hnone, hslots, ofList_toList]

theorem PortSet.ofValue?_toValue (s : PortSet) : ofValue? s.toValue = some s := by
  have hread : Value.list? Value.word64? s.toValue = some s.toNats := by
    refine Value.list?_map fun n hn => Value.word64?_nat ?_
    obtain ⟨i, -, rfl⟩ := List.mem_map.1 hn
    exact Nat.lt_trans i.isLt (by decide)
  unfold ofValue?
  rw [hread, Option.bind_some, ofNats?_toNats]
  rfl

theorem Origin.read?_toValue (source : Source) (o : Origin) : read? source o.toValue = some o := by
  cases o <;> cases source <;> decide

theorem FloodClass.read?_toValue (source : Source) (c : FloodClass) :
    read? source c.toValue = some c := by
  cases c <;> cases source <;> decide

theorem Address.Tag.read?_word (source : Source) (t : Tag) :
    read? source (.str t.word) = some t := by
  cases t <;> cases source <;> decide

theorem Address.read?_toValue (source : Source) (a : Address) : read? source a.toValue = some a := by
  have htext : ofTextValue? a.tag (.str a.text) = some a := by
    cases a with
    | mac m => exact congrArg (fun e => e.toOption.map Address.mac) m.parse_text
    | ipv4 ip => exact congrArg (Option.map Address.ipv4) ip.parse?_text
    | ipv6 ip => exact congrArg (Option.map Address.ipv6) ip.parse?_text
  show (Tag.read? source (.str a.tag.word)).bind (fun t => ofTextValue? t (.str a.text)) = _
  rw [Tag.read?_word]
  exact htext

theorem Key.read?_toValue (source : Source) (k : Key) : read? source k.toValue = some k := by
  have hfields : k.toValue.fieldsFrom? source ["vid", "addr"] =
      some [("vid", k.vid.toValue), ("addr", k.address.toValue)] :=
    Value.fieldsFrom?_obj source (by simp)
  unfold read?
  rw [hfields]
  simp [Vid.ofValue?_toValue, Address.read?_toValue]

theorem EntryRecord.read?_toValue (source : Source) (e : EntryRecord)
    (h : e.idleMs < UInt64.size) : read? source e.toValue = some e := by
  have hfields : e.toValue.fieldsFrom? source ["key", "ports", "origin", "idle_ms"] =
      some [("key", e.key.toValue), ("ports", e.ports.toValue), ("origin", e.origin.toValue),
        ("idle_ms", .nat e.idleMs)] :=
    Value.fieldsFrom?_obj source (by simp)
  unfold read?
  rw [hfields]
  simp [Key.read?_toValue, PortSet.ofValue?_toValue, Origin.read?_toValue, Value.word64?_nat h]

theorem Handle.ofValue?_toValue (h : Handle) (hindex : h.index < UInt64.size)
    (hgeneration : h.generation < UInt64.size) : ofValue? h.toValue = some h := by
  simp [ofValue?, toValue, Value.fields?, Value.word64?_nat hindex, Value.word64?_nat hgeneration]

theorem PortInfo.ofValue?_toValue (p : PortInfo) (hindex : p.index < UInt64.size)
    (hgeneration : p.generation < UInt64.size) : ofValue? p.toValue = some p := by
  simp [ofValue?, toValue, Value.fields?, Value.str?, Value.word64?_nat hindex,
    Value.word64?_nat hgeneration, Vid.ofValue?_toValue, IngressDefaults.ofValue?_toValue]

theorem Vlan.ofValue?_toValue (v : Vlan) : ofValue? v.toValue = some v := by
  simp [ofValue?, toValue, Value.fields?, Value.bool?, Vid.ofValue?_toValue,
    PortSet.ofValue?_toValue]

theorem Counters.readInto_toValue {fs : Fields} {cs : Counters} :
    ∀ (rest : List Counter) (sum : Counters), rest.Nodup →
      (∀ c ∈ rest, sum.get c = 0 ∧ fs.required c.name Value.word64? = some (cs.get c).toNat) →
      (∀ c ∉ rest, sum.get c = cs.get c) → readInto fs rest sum = some cs := by
  intro rest
  induction rest with
  | nil => exact fun sum _ _ hdone => congrArg some (ext_get fun c => hdone c List.not_mem_nil)
  | cons c rest ih =>
    intro sum hdistinct hrest hdone
    obtain ⟨hc, hdistinct⟩ := List.nodup_cons.1 hdistinct
    obtain ⟨hzero, hread⟩ := hrest c List.mem_cons_self
    unfold readInto
    rw [hread]
    refine ih _ hdistinct (fun d hd => ?_) fun d hd => ?_
    · have hne : d ≠ c := fun e => hc (e ▸ hd)
      rw [get_add, if_neg hne]
      exact hrest d (List.mem_cons_of_mem _ hd)
    · rw [get_add]
      split
      · rename_i he
        subst he
        rw [hzero, UInt64.zero_add, UInt64.ofNat_toNat]
      · rename_i hne
        exact hdone d fun hmem => (List.mem_cons.1 hmem).elim hne hd

theorem Counters.ofValue?_toValue (cs : Counters) : ofValue? cs.toValue = some cs := by
  have hread : ∀ c, Fields.required (Counter.all.map fun d => (d.name, Value.nat (cs.get d).toNat))
      c.name Value.word64? = some (cs.get c).toNat := by
    intro c
    have hword := Value.word64?_nat (cs.get c).toNat_lt
    cases c <;> simpa [Counter.all, Counter.name] using hword
  unfold ofValue? toValue Value.fields?
  rw [Option.bind_some]
  exact readInto_toValue _ _ (by decide) (fun c _ => ⟨get_zero c, hread c⟩)
    fun c hc => absurd c.mem_all hc

/-! ### Requests -/

theorem Request.ofValue?_tagged (name : String) {fs : Fields} (h : ∀ f ∈ fs, f.1 ≠ "op") :
    ofValue? (.obj (("op", .str name) :: fs)) = ofFields? name fs := by
  unfold ofValue?
  rw [Value.tagged?_obj h]
  rfl

theorem Request.ofValue?_toValue (r : Request) : ofValue? r.toValue = some r := by
  cases r with
  | fdbFlush port vid origin agedOnly =>
    have hport : Value.option? Value.str? (Value.ofOption .str port) = some port :=
      Value.option?_ofOption port (fun _ => rfl) nofun
    have hvid := Value.option?_ofOption vid Vid.ofValue?_toValue nofun
    have horigin := Value.option?_ofOption origin (Origin.read?_toValue .tagged) nofun
    rw [toValue, ofValue?_tagged _ (by simp)]
    simp [ofFields?, Value.bool?, hport, hvid, horigin]
  | fdbAdd key ports origin =>
    have hports : Value.list? Value.str? (.arr (ports.map .str)) = some ports :=
      Value.list?_map fun _ _ => rfl
    rw [toValue, ofValue?_tagged _ (by simp)]
    simp [ofFields?, Key.read?_toValue, Origin.read?_toValue, hports]
  | _ =>
    rw [toValue, ofValue?_tagged _ (by simp)]
    simp [ofFields?, Value.bool?, Value.str?, Vid.ofValue?_toValue, IngressDefaults.ofValue?_toValue,
      FloodClass.read?_toValue, Key.read?_toValue]

/-! ### Responses -/

namespace Response

/-- The numbers of a response are words of 64 bits. -/
def Fits : Response → Prop
  | .portAdded h => h.index < UInt64.size ∧ h.generation < UInt64.size
  | .ports infos => ∀ p ∈ infos, p.index < UInt64.size ∧ p.generation < UInt64.size
  | .flushed count => count < UInt64.size
  | .fdb entries => ∀ e ∈ entries, e.idleMs < UInt64.size
  | .done | .vlans _ | .counters _ => True

theorem ofValue?_tagged (name : String) {fs : Fields} (h : ∀ f ∈ fs, f.1 ≠ "result") :
    ofValue? (.obj (("result", .str name) :: fs)) = ofFields? name fs := by
  unfold ofValue?
  rw [Value.tagged?_obj h]
  rfl

theorem ofValue?_toValue {r : Response} (h : r.Fits) : ofValue? r.toValue = some r := by
  cases r with
  | done => rfl
  | portAdded port =>
    rw [toValue, ofValue?_tagged _ (by simp)]
    simp [ofFields?, port.ofValue?_toValue h.1 h.2]
  | ports infos =>
    have hinfos : Value.list? PortInfo.ofValue? (.arr (infos.map (·.toValue))) = some infos :=
      Value.list?_map fun p hp => p.ofValue?_toValue (h p hp).1 (h p hp).2
    rw [toValue, ofValue?_tagged _ (by simp)]
    simp [ofFields?, hinfos]
  | vlans records =>
    have hrecords : Value.list? Vlan.ofValue? (.arr (records.map (·.toValue))) = some records :=
      Value.list?_map fun v _ => v.ofValue?_toValue
    rw [toValue, ofValue?_tagged _ (by simp)]
    simp [ofFields?, hrecords]
  | flushed count =>
    rw [toValue, ofValue?_tagged _ (by simp)]
    simp [ofFields?, Value.word64?_nat h]
  | fdb entries =>
    have hentries : Value.list? (EntryRecord.read? .tagged) (.arr (entries.map (·.toValue))) =
        some entries :=
      Value.list?_map fun e he => e.read?_toValue .tagged (h e he)
    rw [toValue, ofValue?_tagged _ (by simp)]
    simp [ofFields?, hentries]
  | counters values =>
    rw [toValue, ofValue?_tagged _ (by simp)]
    simp [ofFields?, values.ofValue?_toValue]

end Response

/-! ### Numbers that were read -/

theorem Data.Fields.exists_of_required {α : Type} {fs : Fields} {name : String}
    {read : Value → Option α} {a : α} (h : fs.required name read = some a) :
    ∃ v, read v = some a := by
  unfold required at h
  split at h
  · exact ⟨_, h⟩
  · cases h

theorem Data.Fields.lt_of_required {fs : Fields} {name : String} {n : Nat}
    (h : fs.required name Value.word64? = some n) : n < UInt64.size :=
  (exists_of_required h).elim fun _ => Value.lt_of_word64?

theorem Handle.fits_of_ofValue? {v : Value} {h : Handle} (hread : ofValue? v = some h) :
    h.index < UInt64.size ∧ h.generation < UInt64.size := by
  unfold ofValue? at hread
  split at hread
  · split at hread
    · cases hread
      exact ⟨Fields.lt_of_required ‹_›, Fields.lt_of_required ‹_›⟩
    · cases hread
  · cases hread

theorem PortInfo.fits_of_ofValue? {v : Value} {p : PortInfo} (hread : ofValue? v = some p) :
    p.index < UInt64.size ∧ p.generation < UInt64.size := by
  unfold ofValue? at hread
  split at hread
  · simp only [Option.bind_eq_bind, Option.bind_eq_some_iff, Option.pure_def] at hread
    obtain ⟨index, hindex, generation, hgeneration, name, -, pvid, -, ingress, -, hp⟩ := hread
    cases hp
    exact ⟨Fields.lt_of_required hindex, Fields.lt_of_required hgeneration⟩
  · cases hread

theorem EntryRecord.fits_of_read? {source : Source} {v : Value} {e : EntryRecord}
    (hread : read? source v = some e) : e.idleMs < UInt64.size := by
  unfold read? at hread
  split at hread
  · simp only [Option.bind_eq_bind, Option.bind_eq_some_iff, Option.pure_def] at hread
    obtain ⟨key, -, ports, -, origin, -, idleMs, hidle, he⟩ := hread
    cases he
    exact Fields.lt_of_required hidle
  · cases hread

/-- The numbers of a response that has been read are words. -/
theorem Response.fits_of_ofValue? {v : Value} {r : Response} (h : ofValue? v = some r) : r.Fits := by
  unfold ofValue? at h
  split at h
  · obtain ⟨fs, -, h⟩ := Option.bind_eq_some_iff.1 h
    unfold ofFields? at h
    split at h
    · cases h
      trivial
    · obtain ⟨port, hport, rfl⟩ := Option.map_eq_some_iff.1 h
      obtain ⟨u, hu⟩ := Fields.exists_of_required hport
      exact Handle.fits_of_ofValue? hu
    · obtain ⟨infos, hinfos, rfl⟩ := Option.map_eq_some_iff.1 h
      obtain ⟨u, hu⟩ := Fields.exists_of_required hinfos
      intro p hp
      obtain ⟨w, hw⟩ := Value.exists_of_mem_list? hu hp
      exact PortInfo.fits_of_ofValue? hw
    · obtain ⟨records, -, rfl⟩ := Option.map_eq_some_iff.1 h
      trivial
    · obtain ⟨count, hcount, rfl⟩ := Option.map_eq_some_iff.1 h
      exact Fields.lt_of_required hcount
    · obtain ⟨entries, hentries, rfl⟩ := Option.map_eq_some_iff.1 h
      obtain ⟨u, hu⟩ := Fields.exists_of_required hentries
      intro e he
      obtain ⟨w, hw⟩ := Value.exists_of_mem_list? hu he
      exact EntryRecord.fits_of_read? hw
    · obtain ⟨values, -, rfl⟩ := Option.map_eq_some_iff.1 h
      trivial
    · cases h
  · cases h

/-- Nothing is lost on the control channel. Every request, and every response whose numbers are words, is
read back from what is written of it; and what has been read of any data, such as may leave fields out or
repeat the ports of a list, is so too. -/
theorem control_data_read_back :
    (∀ r : Request, Request.ofValue? r.toValue = some r) ∧
      (∀ r : Response, r.Fits → Response.ofValue? r.toValue = some r) ∧
      (∀ v r, Request.ofValue? v = some r → Request.ofValue? r.toValue = some r) ∧
      ∀ v r, Response.ofValue? v = some r → r.Fits ∧ Response.ofValue? r.toValue = some r := by
  refine ⟨Request.ofValue?_toValue, fun r => Response.ofValue?_toValue, fun v r _ =>
    r.ofValue?_toValue, fun v r h => ?_⟩
  have hfits := Response.fits_of_ofValue? h
  exact ⟨hfits, Response.ofValue?_toValue hfits⟩

/-- The entry of an IPv6 group that has been idle for as long as can be said; a request that says nothing
of the origin of its entry; and a VLAN whose ports are out of order and repeated. -/
theorem control_data_read_back_loose :
    let key : Key := ⟨⟨4094, by decide⟩, .ipv6 ⟨0xff02, 0, 0, 0, 0, 0, 0, 0xfb⟩⟩
    let shown : Response := .fdb [⟨key, PortSet.full, .dynamic, 18446744073709551615⟩]
    let asked : Value := .obj [("op", .str "fdb_add"), ("key", key.toValue), ("ports", .arr [])]
    let add : Request := .fdbAdd key [] .user
    let ports : Value := Value.nats [3, 1, 3]
    let vlan : Value := .obj [("vid", Value.nat 7), ("members", ports), ("tagged", ports),
      ("unicast_flood", ports), ("multicast_flood", .arr []), ("broadcast_flood", ports),
      ("routers", .arr []), ("learning", .bool true)]
    let listed : Value := .obj [("result", .str "vlans"), ("vlans", .arr [vlan])]
    let both := PortSet.ofList [1, 3]
    let vlans : Response := .vlans [{
      vid := ⟨7, by decide⟩, members := both, tagged := both, unicastFlood := both
      broadcastFlood := both, learning := true }]
    shown.Fits ∧ Response.ofValue? shown.toValue = some shown ∧
      Request.ofValue? asked = some add ∧ Request.ofValue? add.toValue = some add ∧
      Response.ofValue? listed = some vlans ∧ Response.ofValue? vlans.toValue = some vlans := by
  intro key shown asked add ports vlan listed both vlans
  obtain ⟨-, hwritten, hasked, hlisted⟩ := control_data_read_back
  have hfits : shown.Fits := by
    intro e he
    cases List.mem_singleton.1 he
    decide
  have hadd : Request.ofValue? asked = some add := by decide +kernel
  have hvlans : Response.ofValue? listed = some vlans := by decide +kernel
  exact ⟨hfits, hwritten shown hfits, hadd, hasked asked add hadd, hvlans,
    (hlisted listed vlans hvlans).2⟩

end VlanBridge
