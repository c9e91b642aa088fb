import VlanBridge.Text.Combining
import VlanBridge.Text.Number
import VlanBridge.Text.Unassigned
/-!
# Names in quotes

A name shown in a line of state stands between double quotes. A backslash stands before a quote and
a backslash, and control characters and other characters that show no mark of their own are written
by letter or number. Letters of all scripts stand for themselves.
-/

namespace VlanBridge.Text.Quoted

open VlanBridge.Text.Number

/-- Characters that are there but show nothing: controls, blanks and line ends other than the plain
blank, format characters, fillers in the place of letters, and private characters. -/
def invisible : List (Nat × Nat) :=
  [(0x0, 0x1f), (0x7f, 0xa0), (0xad, 0xad), (0x600, 0x605), (0x61c, 0x61c), (0x6dd, 0x6dd),
    (0x70f, 0x70f), (0x890, 0x891), (0x8e2, 0x8e2), (0x115f, 0x1160), (0x1680, 0x1680),
    (0x180e, 0x180e), (0x2000, 0x200b), (0x200d, 0x200f), (0x2028, 0x202f), (0x205f, 0x2064),
    (0x2066, 0x206f), (0x3000, 0x3000), (0x3164, 0x3164), (0xe000, 0xf8ff), (0xfeff, 0xfeff),
    (0xffa0, 0xffa0), (0xfff9, 0xfffb), (0x110bd, 0x110bd), (0x110cd, 0x110cd), (0x13430, 0x1343f),
    (0x1bca0, 0x1bca3), (0x1d173, 0x1d17a), (0xe0001, 0xe0001), (0xe0020, 0xe007f),
    (0xf0000, 0xffffd), (0x100000, 0x10fffd)]

/-- Whether one of some ranges of code points holds a character. -/
def isIn (ranges : List (Nat × Nat)) (c : Char) : Bool :=
  ranges.any fun (low, high) => low ≤ c.toNat && c.toNat ≤ high

/-- Whether a character stands for itself: a mark that combines with the letter before it does not,
nor does one that shows nothing or has no meaning yet. -/
def isMarked (c : Char) : Bool := !isIn invisible c && !isIn combining c && !isIn unassigned c

def char (c : Char) : List Char :=
  match c with
  | '"' => ['\\', '"']
  | '\\' => ['\\', '\\']
  | '\n' => ['\\', 'n']
  | '\r' => ['\\', 'r']
  | '\t' => ['\\', 't']
  | '\x00' => ['\\', '0']
  | c => if isMarked c then [c] else ['\\', 'u', '\x7b'] ++ digits 16 c.toNat ++ ['\x7d']

def text (s : String) : String := "\"" ++ String.ofList (s.toList.flatMap char) ++ "\""

end VlanBridge.Text.Quoted
