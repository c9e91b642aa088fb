import VlanBridge.Verdict
/-!
# What a traffic worker reports

A worker counts its frames by what became of them, and the dropped ones by reason.
-/

namespace VlanBridge.Traffic

abbrev DropTally := List (DropReason × Nat)

namespace DropTally

def count (t : DropTally) (reason : DropReason) : Nat := (List.lookup reason t).getD 0

def add (reason : DropReason) : DropTally → DropTally
  | [] => [(reason, 1)]
  | (r, n) :: t => if r = reason then (r, n + 1) :: t else (r, n) :: add reason t

theorem count_add (t : DropTally) (reason other : DropReason) :
    (t.add reason).count other = t.count other + if other = reason then 1 else 0 := by
  induction t with
  | nil =>
    by_cases h : other = reason
    · simp [add, count, h]
    · have hb : (other == reason) = false := by simpa using h
      simp [add, count, List.lookup_cons, h, hb]
  | cons p t ih =>
    obtain ⟨r, n⟩ := p
    unfold add
    by_cases hr : r = reason
    · by_cases h : other = r
      · simp [count, hr, h]
      · have hb : (other == reason) = false := by simpa [hr] using h
        simp [count, List.lookup_cons, hr, hb, hr ▸ h]
    · by_cases h : other = r
      · simp [count, hr, h]
      · have hb : (other == r) = false := by simpa using h
        simpa [count, List.lookup_cons, hr, hb] using ih

end DropTally

structure WorkerReport where
  port : String
  sent : Nat := 0
  delivered : Nat := 0
  trapped : Nat := 0
  dropped : DropTally := []
  deriving DecidableEq, Repr

namespace WorkerReport

def record (r : WorkerReport) (v : Verdict) : WorkerReport :=
  let r := { r with sent := r.sent + 1 }
  match v with
  | .delivered _ => { r with delivered := r.delivered + 1 }
  | .trapped => { r with trapped := r.trapped + 1 }
  | .dropped reason => { r with dropped := r.dropped.add reason }

theorem sent_record (r : WorkerReport) (v : Verdict) : (r.record v).sent = r.sent + 1 := by
  cases v <;> rfl

end WorkerReport

end VlanBridge.Traffic
