/-!
# Splitting text at a character

`splitAt sep` cuts a row of characters at each `sep`, keeping empty parts; `joinWith sep` puts parts
together again.
-/

namespace VlanBridge.Text

/-- The parts of a row of characters between the separators; a row without one is its own part. -/
def splitAt (sep : Char) : List Char → List (List Char)
  | [] => [[]]
  | c :: cs =>
    if c = sep then [] :: splitAt sep cs
    else match splitAt sep cs with
      | part :: parts => (c :: part) :: parts
      | [] => [[c]]

def joinWith (sep : Char) : List (List Char) → List Char
  | [] => []
  | [part] => part
  | part :: parts => part ++ sep :: joinWith sep parts

theorem splitAt_ne_nil (sep : Char) (cs : List Char) : splitAt sep cs ≠ [] := by
  cases cs with
  | nil => simp [splitAt]
  | cons c cs =>
    unfold splitAt
    split
    · simp
    · split <;> simp

/-- A part without the separator is split off whole. -/
theorem splitAt_append {sep : Char} {part : List Char} (h : ¬ sep ∈ part) (rest : List Char) :
    splitAt sep (part ++ sep :: rest) = part :: splitAt sep rest := by
  induction part with
  | nil => simp [splitAt]
  | cons c part ih =>
    have hc : c ≠ sep := fun e => h (e ▸ List.mem_cons_self ..)
    have hp : ¬ sep ∈ part := fun m => h (List.mem_cons_of_mem _ m)
    simp only [List.cons_append, splitAt, hc, if_false, ih hp]

/-- A row without the separator is one part. -/
theorem splitAt_self {sep : Char} {part : List Char} (h : ¬ sep ∈ part) :
    splitAt sep part = [part] := by
  induction part with
  | nil => rfl
  | cons c part ih =>
    have hc : c ≠ sep := fun e => h (e ▸ List.mem_cons_self ..)
    have hp : ¬ sep ∈ part := fun m => h (List.mem_cons_of_mem _ m)
    simp only [splitAt, hc, if_false, ih hp]

end VlanBridge.Text
