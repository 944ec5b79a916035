import Baseboard.Bytes

/-! Numbers as text: the hexadecimal bytes that messages show, and the decimal
and hexadecimal numbers that a command line accepts. Main statement: bytes written
in hexadecimal read back. -/
namespace Baseboard.Text

def hexDigit (n : Nat) : Char := Nat.digitChar n

def byteDigits (b : UInt8) : List Char := [hexDigit (b.toNat / 16), hexDigit (b.toNat % 16)]

def hexByte (b : UInt8) : String := String.ofList (byteDigits b)

def hex (b : Bytes) : String := String.ofList (b.flatMap byteDigits)

/-- The value of a decimal or hexadecimal digit of either case. -/
def digitValue? (c : Char) : Option Nat :=
  if '0' ≤ c ∧ c ≤ '9' then some (c.toNat - '0'.toNat)
  else if 'a' ≤ c ∧ c ≤ 'f' then some (c.toNat - 'a'.toNat + 10)
  else if 'A' ≤ c ∧ c ≤ 'F' then some (c.toNat - 'A'.toNat + 10)
  else none

def digitBelow? (radix : Nat) (c : Char) : Option Nat :=
  (digitValue? c).filter (· < radix)

/-- The number written by one or more digits and nothing else. -/
def readDigits (radix : Nat) (digits : List Char) : Option Nat :=
  if digits.isEmpty then none
  else digits.foldlM (fun n c => (digitBelow? radix c).map (radix * n + ·)) 0

/-- A number of at most `max`, with an optional plus sign. -/
def readUnsigned (radix max : Nat) (text : List Char) : Option Nat :=
  let digits := match text with
    | '+' :: rest => rest
    | _ => text
  (readDigits radix digits).filter (· ≤ max)

/-- A decimal number from zero to `max`, with an optional sign: a minus sign may
stand before zero. -/
def readNonnegative (max : Nat) (text : List Char) : Option Nat :=
  match text with
  | '-' :: rest => (readDigits 10 rest).filter (· = 0)
  | _ => readUnsigned 10 max text

def readByte (text : String) : Option UInt8 :=
  (match text.toList with
    | '0' :: 'x' :: digits => readUnsigned 16 255 digits
    | digits => readUnsigned 10 255 digits).map UInt8.ofNat

def readHex : List Char → Option Bytes
  | [] => some []
  | high :: low :: rest => do
    let h ← digitBelow? 16 high
    let l ← digitBelow? 16 low
    let bytes ← readHex rest
    return UInt8.ofNat (16 * h + l) :: bytes
  | [_] => none

theorem digitBelow?_hexDigit {n : Nat} (h : n < 16) : digitBelow? 16 (hexDigit n) = some n := by
  revert n
  decide

/-- Bytes written in hexadecimal read back. -/
theorem readHex_hex (b : Bytes) : readHex (hex b).toList = some b := by
  rw [hex, String.toList_ofList]
  induction b with
  | nil => rfl
  | cons x b ih =>
    have hx := x.toNat_lt
    have hd : 16 * (x.toNat / 16) + x.toNat % 16 = x.toNat := Nat.div_add_mod _ _
    simp only [List.flatMap_cons, byteDigits, List.cons_append, List.nil_append, readHex,
      digitBelow?_hexDigit (show x.toNat / 16 < 16 by omega),
      digitBelow?_hexDigit (show x.toNat % 16 < 16 by omega), Option.bind_eq_bind,
      Option.bind_some]
    rw [ih, hd]
    simp

end Baseboard.Text
