import VlanBridge.Text.Number
/-!
# Deferred release

A record that has been taken out of a table may still be in use by a frame in flight. Each frame
holds a guard for as long as it may use records; whoever takes a record out queues its release here.

Time is counted in epochs. A guard remembers the epoch in which it was taken, and a release the
epoch in which it was queued. The epoch moves from `e` to `e + 1` only while no guard of the other
parity is held, and a release is ready two epochs after it was queued. So two reader counts, one per
parity, stand for all guards: no guard that was held when a release was queued is held when it runs.
Releases run in the order in which they were queued.

Epochs and readers are counted without a bound. Counters of 64 bits show the same until one of them
would come to 2^64; that many epochs have to pass, or guards to be held at one time, before that.
-/

namespace VlanBridge

open VlanBridge.Text.Number

/-- The right to use records until it is given back. -/
structure Guard where
  epoch : Nat
  deriving DecidableEq, Repr

/-- A release that waits, with the epoch in which it was queued. -/
structure Queued (ρ : Type) where
  epoch : Nat
  release : ρ
  deriving DecidableEq, Repr

/-- The releases that wait and the guards that are held. -/
structure Reclaimer (ρ : Type) where
  epoch : Nat := 0
  /-- How many guards of even epochs are held. -/
  evenReaders : Nat := 0
  /-- How many guards of odd epochs are held. -/
  oddReaders : Nat := 0
  queue : List (Queued ρ) := []
  deriving DecidableEq, Repr

namespace Reclaimer

variable {ρ : Type}

instance : Inhabited (Reclaimer ρ) := ⟨{}⟩

/-- How many guards with the parity of an epoch are held. -/
def readers (r : Reclaimer ρ) (epoch : Nat) : Nat :=
  if epoch % 2 = 0 then r.evenReaders else r.oddReaders

/-- Changes the number of guards with the parity of an epoch. -/
def modifyReaders (r : Reclaimer ρ) (epoch : Nat) (f : Nat → Nat) : Reclaimer ρ :=
  if epoch % 2 = 0 then { r with evenReaders := f r.evenReaders }
  else { r with oddReaders := f r.oddReaders }

def pending (r : Reclaimer ρ) : Nat := r.queue.length

def pin (r : Reclaimer ρ) : Reclaimer ρ × Guard :=
  (r.modifyReaders r.epoch (· + 1), ⟨r.epoch⟩)

def unpin (r : Reclaimer ρ) (g : Guard) : Reclaimer ρ := r.modifyReaders g.epoch (· - 1)

/-- Queues a release; its record must be out of every table already. -/
def retire (r : Reclaimer ρ) (release : ρ) : Reclaimer ρ :=
  { r with queue := r.queue ++ [⟨r.epoch, release⟩] }

/-- Moves to the next epoch unless a guard of the other parity is held. -/
def advance (r : Reclaimer ρ) : Reclaimer ρ :=
  if r.readers (r.epoch + 1) = 0 then { r with epoch := r.epoch + 1 } else r

def isReady (r : Reclaimer ρ) (q : Queued ρ) : Bool := q.epoch + 2 ≤ r.epoch

/-- Moves on by up to two epochs and takes out the releases that have become ready. -/
def collect (r : Reclaimer ρ) : Reclaimer ρ × List ρ :=
  if r.queue.isEmpty then (r, [])
  else
    let r := r.advance.advance
    ({ r with queue := r.queue.filter fun q => !r.isReady q },
      (r.queue.filter r.isReady).map (·.release))

/-- Runs the releases that have become ready; running one may queue those that `follow` gives.
The releases that ran are listed in their order. -/
def reclaim (follow : ρ → List ρ) (r : Reclaimer ρ) : Reclaimer ρ × List ρ :=
  let (r, ready) := r.collect
  ((ready.flatMap follow).foldl retire r, ready)

def text (r : Reclaimer ρ) : String :=
  "Epoch \x7b global: " ++ decimal r.epoch ++ ", pending: " ++ decimal r.pending ++ " \x7d"

/-! ### What the operations do -/

theorem readers_modifyReaders (r : Reclaimer ρ) (e d : Nat) (f : Nat → Nat) :
    (r.modifyReaders e f).readers d = if e % 2 = d % 2 then f (r.readers d) else r.readers d := by
  unfold modifyReaders readers
  by_cases he : e % 2 = 0 <;> by_cases hd : d % 2 = 0
  · simp only [he, hd, if_true]
  · have : ¬ 0 = d % 2 := fun h => hd h.symm
    simp only [he, hd, if_true, if_false, this]
  · simp only [he, hd, if_true, if_false]
  · have : e % 2 = d % 2 := by omega
    simp only [hd, if_false, this, if_true]

theorem modifyReaders_epoch (r : Reclaimer ρ) (e : Nat) (f : Nat → Nat) :
    (r.modifyReaders e f).epoch = r.epoch := by
  unfold modifyReaders
  split <;> rfl

theorem modifyReaders_queue (r : Reclaimer ρ) (e : Nat) (f : Nat → Nat) :
    (r.modifyReaders e f).queue = r.queue := by
  unfold modifyReaders
  split <;> rfl

theorem pin_queue (r : Reclaimer ρ) : r.pin.1.queue = r.queue := r.modifyReaders_queue _ _

theorem unpin_queue (r : Reclaimer ρ) (g : Guard) : (r.unpin g).queue = r.queue :=
  r.modifyReaders_queue _ _

/-- Giving back the guard just taken undoes taking it. -/
theorem unpin_pin (r : Reclaimer ρ) : r.pin.1.unpin r.pin.2 = r := by
  obtain ⟨epoch, evenReaders, oddReaders, queue⟩ := r
  simp only [pin, unpin, modifyReaders]
  by_cases h : epoch % 2 = 0 <;> simp [h]

theorem pending_retire (r : Reclaimer ρ) (release : ρ) :
    (r.retire release).pending = r.pending + 1 := by
  simp [retire, pending]

theorem advance_queue (r : Reclaimer ρ) : r.advance.queue = r.queue := by
  unfold advance
  split <;> rfl

theorem readers_advance (r : Reclaimer ρ) (e : Nat) : r.advance.readers e = r.readers e := by
  unfold advance
  split <;> rfl

end Reclaimer

end VlanBridge
