/-!
# Structured data

The tree that JSON and TOML texts stand for. A number that is not written as a whole number is kept
as it is written. Records are read by the names of their fields, and also by position from a list;
fields that are not asked for are passed over. What else is accepted hangs on where data comes from.
-/

namespace VlanBridge.Data

inductive Value where
  | null
  | bool (b : Bool)
  | int (n : Int)
  /-- A number that is not written as a whole number. -/
  | real (text : String)
  /-- A number without a value: it is too large for every range of numbers, or what it is written in
  are no digits. -/
  | unvalued
  | str (s : String)
  | arr (items : List Value)
  | obj (fields : List (String × Value))
  deriving Repr, BEq, Inhabited

abbrev Fields := List (String × Value)

inductive Source where
  /-- It is all there is. -/
  | direct
  /-- It is the field of a record that is known by its tag. -/
  | tagged
  /-- It is what a file of settings says. -/
  | file
  deriving DecidableEq, Repr

namespace Value

mutual

def isValued : Value → Bool
  | .unvalued => false
  | .arr vs => allValued vs
  | .obj fs => fieldsValued fs
  | .null | .bool _ | .int _ | .real _ | .str _ => true

def allValued : List Value → Bool
  | [] => true
  | v :: vs => v.isValued && allValued vs

def fieldsValued : List (String × Value) → Bool
  | [] => true
  | (_, v) :: fs => v.isValued && fieldsValued fs

end

def nat (n : Nat) : Value := .int n

def nats (ns : List Nat) : Value := .arr (ns.map nat)

def ofOption {α : Type} (write : α → Value) : Option α → Value
  | some a => write a
  | none => .null

/-- A whole number from 0 to `bound`. -/
def nat? (bound : Nat) : Value → Option Nat
  | .int (.ofNat n) => if n ≤ bound then some n else none
  | _ => none

def octet? (v : Value) : Option UInt8 := (v.nat? 255).map UInt8.ofNat

def word16? (v : Value) : Option UInt16 := (v.nat? 65535).map UInt16.ofNat

def word64? (v : Value) : Option Nat := v.nat? (UInt64.size - 1)

def bool? : Value → Option Bool
  | .bool b => some b
  | _ => none

def str? : Value → Option String
  | .str s => some s
  | _ => none

def readAll {α : Type} (read : Value → Option α) : List Value → Option (List α)
  | [] => some []
  | v :: vs =>
    match read v, readAll read vs with
    | some a, some as => some (a :: as)
    | _, _ => none

def list? {α : Type} (read : Value → Option α) : Value → Option (List α)
  | .arr vs => readAll read vs
  | _ => none

def option? {α : Type} (read : Value → Option α) : Value → Option (Option α)
  | .null => some none
  | v => (read v).map some

/-- One of some words, also written as the name of an empty field. -/
def word? {α : Type} (named? : String → Option α) : Value → Option α
  | .str s => named? s
  | .obj [(s, .null)] => named? s
  | _ => none

/-- One of some words. Below a tag the field that it names may also be an empty record. -/
def wordFrom? {α : Type} (source : Source) (named? : String → Option α) : Value → Option α
  | .obj [(s, .obj [])] => if source = .tagged then named? s else none
  | v => v.word? named?

/-- The fields of a record with the given field names. -/
def fields? (names : List String) : Value → Option Fields
  | .obj fs => some fs
  | .arr vs => if vs.length ≤ names.length then some (names.zip vs) else none
  | _ => none

/-- The fields of a record with the given field names. In a file a list may be longer than the
record, and what stands behind its fields is not looked at, while fields that are not asked for are
passed over one by one, which takes numbers that have a value. -/
def fieldsFrom? (source : Source) (names : List String) (v : Value) : Option Fields :=
  match source, v with
  | .file, .obj fs => if fieldsValued (fs.filter (·.1 ∉ names)) then some fs else none
  | .file, .arr vs => some (names.zip vs)
  | _, v => v.fields? names

/-- The fields of a record that is not written as a list. -/
def record? : Value → Option Fields
  | .obj fs => some fs
  | _ => none

/-- The tag of a record and the rest of the record. -/
def tagged? (tag : String) : Value → Option (String × Value)
  | .obj fs =>
    match fs.lookup tag with
    | some (.str s) => some (s, .obj (fs.filter (·.1 != tag)))
    | _ => none
  | .arr (.str s :: vs) => some (s, .arr vs)
  | _ => none

theorem nat?_nat {bound n : Nat} (h : n ≤ bound) : (nat n).nat? bound = some n := by
  show (if n ≤ bound then some n else none) = some n
  exact if_pos h

theorem readAll_map {α : Type} {read : Value → Option α} {write : α → Value} (as : List α)
    (h : ∀ a ∈ as, read (write a) = some a) : readAll read (as.map write) = some as := by
  induction as with
  | nil => rfl
  | cons a as ih =>
    have ha := h a (List.mem_cons_self ..)
    have has := ih fun b hb => h b (List.mem_cons_of_mem _ hb)
    simp only [List.map_cons, readAll, ha, has]

end Value

namespace Fields

def required {α : Type} (fs : Fields) (name : String) (read : Value → Option α) : Option α :=
  match List.lookup name fs with
  | some v => read v
  | none => none

def defaulted {α : Type} (fs : Fields) (name : String) (fallback : α) (read : Value → Option α) :
    Option α :=
  match List.lookup name fs with
  | some v => read v
  | none => some fallback

/-- A field that may be left out or hold nothing. -/
def nullable {α : Type} (fs : Fields) (name : String) (read : Value → Option α) :
    Option (Option α) := fs.defaulted name none (Value.option? read)

/-- A field that has its default both if it is left out and if it holds nothing. -/
def optional {α : Type} (fs : Fields) (name : String) (fallback : α) (read : Value → Option α) :
    Option α := (fs.nullable name read).map (·.getD fallback)

end Fields

end VlanBridge.Data
