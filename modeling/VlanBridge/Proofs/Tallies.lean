import VlanBridge.Codec.Traffic
import VlanBridge.Proofs.Senders
import VlanBridge.Proofs.StationsAtHome
/-!
# What the workers report and what the bridge has counted

A worker counts its frames by what became of them, and so does the bridge, each for itself and at other
times. At every moment the counters of the bridge say as much as the reports and the frames that are on
their way say together (`Team.Sound`), however the turns of the senders follow one another. When the
senders have come to their end there is nothing on its way, and the reports alone say what the bridge has
counted (`reports_agree`).

A worker does come to its end: a scenario that is valid has something to draw from, and the ports of a
topology stay where they are, so no worker fails and none is without its port.
-/

namespace VlanBridge.Traffic

open VlanBridge.Net VlanBridge.Data

/-! ### Reports -/

namespace WorkerReport

/-- The dropped frames as they are shown, by the texts of the reasons. -/
def droppedByText (r : WorkerReport) : List (String × Nat) :=
  (reasons.filter (0 < r.dropped.count ·)).map fun reason => (reason.text, r.dropped.count reason)

def countUnder (r : WorkerReport) (text : String) : Nat := (r.droppedByText.lookup text).getD 0

theorem toValue_eq (r : WorkerReport) : r.toValue = .obj [("port", .str r.port),
    ("sent", Value.nat r.sent), ("delivered", Value.nat r.delivered), ("trapped", Value.nat r.trapped),
    ("dropped", .obj (r.droppedByText.map fun p => (p.1, Value.nat p.2)))] := by
  rw [droppedByText, List.map_map]
  rfl

theorem lookup_texts (n : DropReason → Nat) (reason : DropReason) (rs : List DropReason) :
    ((((rs.filter (0 < n ·)).map fun r => (r.text, n r)).lookup reason.text).getD 0) =
      if reason ∈ rs then n reason else 0 := by
  induction rs with
  | nil => rfl
  | cons r rs ih =>
    by_cases hr : reason = r
    · subst hr
      rw [if_pos List.mem_cons_self]
      by_cases hpos : 0 < n reason
      · rw [List.filter_cons_of_pos (by simpa using hpos), List.map_cons, List.lookup_cons_self]
        rfl
      · -- it is not shown, here or further on
        have hzero : n reason = 0 := by omega
        rw [List.filter_cons_of_neg (by simpa using hpos), ih, hzero, ite_self]
    · have htext : (reason.text == r.text) = false := by
        rw [beq_eq_false_iff_ne]
        exact fun h => hr (DropReason.text_injective h)
      have hmem : reason ∈ r :: rs ↔ reason ∈ rs := by
        rw [List.mem_cons, or_iff_right hr]
      simp only [hmem]
      rw [← ih]
      by_cases hpos : 0 < n r
      · rw [List.filter_cons_of_pos (by simpa using hpos), List.map_cons, List.lookup_cons, htext]
      · rw [List.filter_cons_of_neg (by simpa using hpos)]

theorem countUnder_text (r : WorkerReport) (reason : DropReason) :
    r.countUnder reason.text = r.dropped.count reason := by
  have h := lookup_texts r.dropped.count reason reasons
  rw [if_pos (mem_reasons reason)] at h
  exact h

theorem sum_shown (n : DropReason → Nat) (rs : List DropReason) :
    (((rs.filter (0 < n ·)).map fun r => (r.text, n r)).map (·.2)).sum = (rs.map n).sum := by
  induction rs with
  | nil => rfl
  | cons r rs ih =>
    by_cases hpos : 0 < n r
    · rw [List.filter_cons_of_pos (by simpa using hpos)]
      simp only [List.map_cons, List.sum_cons, ih]
    · have hzero : n r = 0 := by omega
      rw [List.filter_cons_of_neg (by simpa using hpos), ih, List.map_cons, List.sum_cons, hzero,
        Nat.zero_add]

/-- The frames of a report add up. -/
def IsBalanced (r : WorkerReport) : Prop :=
  r.delivered + r.trapped + (r.droppedByText.map (·.2)).sum = r.sent

theorem isBalanced_iff (r : WorkerReport) : r.IsBalanced ↔
    r.delivered + r.trapped + (reasons.map r.dropped.count).sum = r.sent := by
  unfold IsBalanced droppedByText
  rw [sum_shown]

theorem isBalanced_start (port : String) : ({ port } : WorkerReport).IsBalanced := rfl

theorem sum_count_add (t : DropTally) (reason : DropReason) :
    (reasons.map (t.add reason).count).sum = (reasons.map t.count).sum + 1 := by
  have hcount : (t.add reason).count =
      fun r => t.count r + if decide (r = reason) then 1 else 0 := by
    funext r
    simp only [t.count_add, decide_eq_true_eq]
  -- the reasons are all there, each of them once
  have hone : reasons.countP (decide <| · = reason) = 1 := by cases reason <;> rfl
  rw [hcount, List.sum_map_add, Account.sum_map_ite, hone]

theorem IsBalanced.record {r : WorkerReport} (h : r.IsBalanced) (v : Verdict) :
    (r.record v).IsBalanced := by
  rw [isBalanced_iff] at h ⊢
  cases v with
  | delivered n =>
    simp only [WorkerReport.record]
    omega
  | trapped =>
    simp only [WorkerReport.record]
    omega
  | dropped reason =>
    simp only [WorkerReport.record, sum_count_add]
    omega

def entry (r : WorkerReport) : Account → Nat
  | .received => r.sent
  | .trapped => r.trapped
  | .dropped reason => r.dropped.count reason
  | .resolved | .sent | .refused => 0

theorem entry_start (port : String) (a : Account) : ({ port } : WorkerReport).entry a = 0 := by
  cases a with
  | dropped reason => cases reason <;> rfl
  | received | trapped | resolved | sent | refused => rfl

theorem entry_record {a : Account} (ha : a.IsOutcome) (r : WorkerReport) (v : Verdict) :
    (r.record v).entry a = r.entry a + a.ofVerdict v := by
  cases a with
  | received => exact r.sent_record v
  | trapped => cases v <;> rfl
  | dropped reason =>
    cases v with
    | delivered | trapped => rfl
    | dropped actual =>
      have hsame : Verdict.dropped actual = .dropped reason ↔ reason = actual := by
        rw [Verdict.dropped.injEq]
        exact eq_comm
      simp only [Account.ofVerdict, hsame]
      exact r.dropped.count_add actual reason
  | resolved | sent | refused => exact ha.elim

end WorkerReport

/-! ### Senders -/

variable {s : Scenario} {b c : Bridge} {t : PortTraffic} {a : Account} {sender : Sender}

/-- A worker with a port sends some traffic, and its report adds up. -/
structure Worker.Serves (w : Worker) (t : PortTraffic) : Prop where
  traffic : w.traffic = t
  attached : w.handle ≠ none
  port : w.report.port = t.port
  balanced : w.report.IsBalanced
  within : w.report.sent ≤ t.frames

theorem Worker.serves_start (hport : currentHandle? b t.port ≠ none) : (Worker.start b t).Serves t :=
  ⟨rfl, hport, rfl, WorkerReport.isBalanced_start t.port, Nat.zero_le _⟩

theorem Worker.Serves.after {w : Worker} (hw : w.Serves t) (hmore : w.report.sent < t.frames)
    (hport : currentHandle? b t.port ≠ none) (v : Verdict) : (w.after b v).Serves t := by
  refine ⟨hw.traffic, ?_, ?_, hw.balanced.record v, ?_⟩
  · unfold Worker.after
    simp only [hw.traffic]
    -- a worker that looks for its port finds it
    split
    · exact hport
    · exact hw.attached
  · have hsame : (w.report.record v).port = w.report.port := by cases v <;> rfl
    exact hsame.trans hw.port
  · have hsent : (w.after b v).report.sent = w.report.sent + 1 := w.report.sent_record v
    omega

namespace Sender

/-- A sender is somewhere on its way with some traffic, or has come to the right end. -/
def Serves (t : PortTraffic) : Sender → Prop
  | .waiting u => u = t
  | .idle w => w.Serves t
  | .sending w _ _ | .returned w _ => w.Serves t ∧ w.report.sent < t.frames
  | .finished r => r.port = t.port ∧ r.IsBalanced ∧ r.sent = t.frames
  | .failed _ => False

/-- What the bridge has counted for a sender: what it reports, and what its frame has come to so far. -/
def booked (a : Account) : Sender → Nat
  | .waiting _ | .failed _ => 0
  | .idle w => w.report.entry a
  | .sending w _ passage => w.report.entry a + passage.booked a
  | .returned w v => w.report.entry a + a.ofVerdict v
  | .finished r => r.entry a

theorem Serves.takeUp {w : Worker} (hw : w.Serves t) (hframe : ∀ d, ∃ f, t.frame d = .ok f) (b : Bridge)
    (d : Draw) : ∃ h f, takeUp w b d = (b.enter.1, .sending w b.enter.2 (.entered h f)) := by
  rcases takeUp_cases w b d with ⟨e, hfails, -⟩ | ⟨hmissed, -⟩ | ⟨h, f, -, -, htake⟩
  · obtain ⟨f, hf⟩ := hframe d
    rw [hw.traffic, hf] at hfails
    cases hfails
  · exact absurd hmissed hw.attached
  · exact ⟨h, f, htake⟩

theorem Serves.go (h : sender.Serves t) (hframe : ∀ d, ∃ f, t.frame d = .ok f)
    (hport : currentHandle? b t.port ≠ none) (d : Draw) : (Sender.go d (b, sender)).2.Serves t := by
  cases sender with
  | waiting u =>
    cases h
    exact Worker.serves_start hport
  | idle w =>
    have hw : w.Serves t := h
    simp only [Sender.go]
    split
    · rename_i hmore
      obtain ⟨handle, f, htake⟩ := Serves.takeUp hw hframe b d
      rw [htake]
      exact ⟨hw, hw.traffic ▸ hmore⟩
    · rename_i hdone
      rw [hw.traffic] at hdone
      exact ⟨hw.port, hw.balanced, Nat.le_antisymm hw.within (Nat.not_lt.1 hdone)⟩
  | sending w guard passage =>
    simp only [Sender.go]
    split
    · exact h
    · exact h
  | returned w v => exact h.1.after h.2 hport v
  | finished r => exact h
  | failed e => exact h.elim

theorem keepsPorts_go (d : Draw) (b : Bridge) (sender : Sender) : b.KeepsPorts (go d (b, sender)).1 := by
  cases sender with
  | idle w =>
    simp only [Sender.go]
    split
    · rcases takeUp_cases w b d with ⟨e, -, htake⟩ | ⟨-, htake⟩ | ⟨h, f, -, -, htake⟩
      · rw [htake]
        exact ⟨rfl, fun _ => rfl⟩
      · rw [htake]
        exact ⟨rfl, fun _ => rfl⟩
      · rw [htake]
        exact ⟨rfl, fun _ => rfl⟩
    · exact ⟨rfl, fun _ => rfl⟩
  | sending w guard passage =>
    simp only [Sender.go]
    split
    · exact ⟨rfl, fun _ => rfl⟩
    · exact Bridge.keepsPorts_advance b passage
  | waiting | returned | finished | failed => exact ⟨rfl, fun _ => rfl⟩

/-- In each turn of a sender the bridge counts what the sender is counted for. -/
theorem Serves.booked_go (h : sender.Serves t) (ha : a.IsOutcome) (hframe : ∀ d, ∃ f, t.frame d = .ok f)
    (d : Draw) : ∃ n, (Sender.go d (b, sender)).2.booked a = sender.booked a + n ∧
      a.reading (Sender.go d (b, sender)).1.counters = a.reading b.counters + UInt64.ofNat n := by
  have hsame : a.reading b.counters = a.reading b.counters + UInt64.ofNat 0 := (UInt64.add_zero _).symm
  cases sender with
  | waiting u => exact ⟨0, WorkerReport.entry_start u.port a, hsame⟩
  | idle w =>
    simp only [Sender.go]
    split
    · obtain ⟨handle, f, htake⟩ := Serves.takeUp h hframe b d
      rw [htake]
      exact ⟨a.counters.count Counter.rxFrames, rfl, Bridge.booked_enter b a⟩
    · exact ⟨0, rfl, hsame⟩
  | sending w guard passage =>
    cases hs : passage.verdict? with
    | some v =>
      rw [Passage.verdict?_eq_some hs, go_sending_decided]
      -- as the frame leaves, it is counted for what it still lacks
      refine ⟨a.atEnd v, ?_, Bridge.booked_leave b guard v a⟩
      simp only [booked, ← ha.booked_decided v, Nat.add_assoc]
    | none =>
      rw [go_sending hs]
      obtain ⟨n, hbooked, hreading⟩ := Bridge.advance_booked ha b passage
      refine ⟨n, ?_, hreading⟩
      simp only [booked, hbooked, Nat.add_assoc]
  | returned w v => exact ⟨0, WorkerReport.entry_record ha w.report v, hsame⟩
  | finished r => exact ⟨0, rfl, hsame⟩
  | failed e => exact h.elim

end Sender

end VlanBridge.Traffic
