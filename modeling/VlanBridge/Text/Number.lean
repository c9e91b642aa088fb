/-!
# Whole numbers as text

Numbers are written with the fewest digits of a radix, or padded with zeros to a width. They are
read more freely: an optional plus sign, then at least one digit of either case, any number of
leading zeros, and a value not above a bound. `parse_digits` says that what is written reads back.
-/

namespace VlanBridge.Text.Number

/-- The value of a digit; letters of either case follow nine. -/
def digitValue (c : Char) : Option Nat :=
  if '0' ≤ c ∧ c ≤ '9' then some (c.toNat - '0'.toNat)
  else if 'a' ≤ c ∧ c ≤ 'z' then some (c.toNat - 'a'.toNat + 10)
  else if 'A' ≤ c ∧ c ≤ 'Z' then some (c.toNat - 'A'.toNat + 10)
  else none

/-- The digit with a value below 36, in lower case. -/
def digitChar (n : Nat) : Char :=
  if n < 10 then Char.ofNat ('0'.toNat + n) else Char.ofNat ('a'.toNat + (n - 10))

theorem digitValue_digitChar : ∀ n : Fin 36, digitValue (digitChar n.val) = some n.val := by
  decide

/-- The value of a row of digits, after `acc` has been read. -/
def readDigits (radix : Nat) : (acc : Nat) → List Char → Option Nat
  | acc, [] => some acc
  | acc, c :: cs =>
    match digitValue c with
    | some d => if d < radix then readDigits radix (acc * radix + d) cs else none
    | none => none

theorem readDigits_append (radix acc : Nat) (cs ds : List Char) :
    readDigits radix acc (cs ++ ds) =
      (readDigits radix acc cs).bind fun n => readDigits radix n ds := by
  induction cs generalizing acc with
  | nil => rfl
  | cons c cs ih =>
    simp only [List.cons_append, readDigits]
    cases digitValue c with
    | none => rfl
    | some d =>
      by_cases h : d < radix
      · simp only [h, if_true, ih]
      · simp only [h, if_false, Option.bind_none]

/-- Reads at least one digit and nothing else. -/
def parse? (radix : Nat) (cs : List Char) : Option Nat :=
  if cs.isEmpty then none else readDigits radix 0 cs

/-- Reads an optional plus sign and then digits, for a value up to `bound`. -/
def parseSigned? (radix bound : Nat) (cs : List Char) : Option Nat :=
  let digits := match cs with
    | '+' :: rest => rest
    | _ => cs
  match parse? radix digits with
  | some n => if n ≤ bound then some n else none
  | none => none

/-- The digits of a number, most significant first; `fuel` bounds how many. -/
def digitsWith (radix : Nat) : (fuel n : Nat) → List Char
  | 0, _ => []
  | fuel + 1, n =>
    if n < radix then [digitChar n]
    else digitsWith radix fuel (n / radix) ++ [digitChar (n % radix)]

def digits (radix n : Nat) : List Char := digitsWith radix (n + 1) n

theorem readDigits_digitsWith {radix : Nat} (h2 : 2 ≤ radix) (h36 : radix ≤ 36) {fuel n : Nat}
    (hn : n < fuel) : readDigits radix 0 (digitsWith radix fuel n) = some n := by
  induction fuel generalizing n with
  | zero => omega
  | succ fuel ih =>
    unfold digitsWith
    by_cases h : n < radix
    · have hd := digitValue_digitChar ⟨n, by omega⟩
      simp only [h, if_true, readDigits, hd, Nat.zero_mul, Nat.zero_add]
    · have hlt : n % radix < radix := Nat.mod_lt _ (by omega)
      have hd := digitValue_digitChar ⟨n % radix, by omega⟩
      have hq : n / radix < n := Nat.div_lt_self (by omega) (by omega)
      have hval : n / radix * radix + n % radix = n := Nat.div_add_mod' n radix
      simp only [h, if_false, readDigits_append, ih (by omega : n / radix < fuel),
        Option.bind_some, readDigits, hd, hlt, if_true, hval]

theorem digits_ne_nil (radix n : Nat) : digits radix n ≠ [] := by
  unfold digits digitsWith
  split <;> simp

/-- What `digits` writes, `parse?` reads back. -/
theorem parse_digits {radix : Nat} (h2 : 2 ≤ radix) (h36 : radix ≤ 36) (n : Nat) :
    parse? radix (digits radix n) = some n := by
  have hne : (digits radix n).isEmpty = false := by
    simpa [List.isEmpty_eq_false_iff] using digits_ne_nil radix n
  simp only [parse?, hne]
  exact readDigits_digitsWith h2 h36 (Nat.lt_succ_self n)

/-- The digits of a number, padded with zeros to at least `width`. -/
def padded (radix width n : Nat) : List Char :=
  let ds := digits radix n
  List.replicate (width - ds.length) '0' ++ ds

def decimal (n : Nat) : String := String.ofList (digits 10 n)

/-- Whether `n * 10 ^ e` is too large for a floating-point number of 64 bits. The largest of these
is `2 ^ 1024 - 2 ^ 971`, and half a step above it rounding begins to lead nowhere. Numbers of other
than 309 digits before the point need no multiplication. -/
def exceedsDouble (n : Nat) (e : Int) : Bool :=
  let bound := Nat.pow 2 1024 - Nat.pow 2 970
  let size := (digits 10 n).length + e
  if n = 0 || size < 309 then false
  else if 309 < size then true
  else match e with
    | .ofNat k => bound ≤ n * Nat.pow 10 k
    | .negSucc k => bound * Nat.pow 10 (k + 1) ≤ n

end VlanBridge.Text.Number
