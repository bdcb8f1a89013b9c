import Hes.Bytes

set_option autoImplicit false

namespace Hes.Text

def ascii (text : String) : Bytes := text.toList.map fun letter => letter.toNat.toUInt8

def explode (delim : UInt8) : Bytes -> List Bytes
  | [] => [[]]
  | letter :: rest =>
    if letter = delim then [] :: explode delim rest
    else
      match explode delim rest with
      | [] => [[letter]]
      | first :: others => (letter :: first) :: others

/-- Fields read by `getline`: it gives no last field behind a final delimiter. -/
def split (delim : UInt8) (text : Bytes) : List Bytes :=
  let fields := explode delim text
  if fields.getLast? = some [] then fields.dropLast else fields

inductive Fault where
  | invalidArgument
  | outOfRange
  | missingField
  deriving DecidableEq, Repr

abbrev Result (A : Type) := Except Fault A

theorem ok_bind {A B : Type} (first : Result A) (next : A -> Result B) (result : B) :
    first >>= next = .ok result <-> exists value, first = .ok value /\ next value = .ok result := by
  cases first <;> simp [bind, Except.bind]

def isSpace (letter : UInt8) : Bool := letter = 0x20 || (0x09 ≤ letter && letter ≤ 0x0D)

def isDigit (letter : UInt8) : Bool := 0x30 ≤ letter && letter ≤ 0x39

def digitValue (letter : UInt8) : Option Nat :=
  if isDigit letter then some (letter.toNat - 0x30)
  else if 0x41 ≤ letter && letter ≤ 0x46 then some (letter.toNat - 0x37)
  else if 0x61 ≤ letter && letter ≤ 0x66 then some (letter.toNat - 0x57)
  else none

/-- The value of the leading digits, or `none` when there is no digit. -/
def leadingNumber (base : Nat) (text : Bytes) : Option Nat :=
  let digits := (text.map digitValue).takeWhile fun digit => digit.any fun value => value < base
  if digits = [] then none
  else some (digits.foldl (fun value digit => value * base + digit.getD 0) 0)

/-- Sign and magnitude as `strtol` reads them: leading blanks, a sign, then digits. -/
def signedNumber (base : Nat) (text : Bytes) : Option (Bool × Nat) :=
  match text.dropWhile isSpace with
  | 0x2D :: rest => (leadingNumber base rest).map fun value => (true, value)
  | 0x2B :: rest => (leadingNumber base rest).map fun value => (false, value)
  | rest => (leadingNumber base rest).map fun value => (false, value)

def stoiBase (base : Nat) (text : Bytes) : Result Int :=
  match signedNumber base text with
  | none => .error .invalidArgument
  | some (negative, value) =>
    if negative then
      if value ≤ 2 ^ 31 then .ok (-(value : Int)) else .error .outOfRange
    else if value < 2 ^ 31 then .ok value else .error .outOfRange

def stoi : Bytes -> Result Int := stoiBase 10

/-- A negative number wraps in `unsigned long`. -/
def stoul (text : Bytes) : Result Nat :=
  match signedNumber 10 text with
  | none => .error .invalidArgument
  | some (negative, value) =>
    if value < 2 ^ 64 then .ok (if negative then (2 ^ 64 - value) % 2 ^ 64 else value)
    else .error .outOfRange

def field (parts : List Bytes) (index : Nat) : Result Bytes :=
  match parts[index]? with
  | some text => .ok text
  | none => .error .missingField

def Reads {A : Type} (result : Result A) : Prop := exists value, result = .ok value

theorem split_getElem (delim : UInt8) (text : Bytes) (index : Nat)
    (kept : index + 1 < (explode delim text).length \/
      exists part, (explode delim text)[index]? = some part /\ part ≠ []) :
    (split delim text)[index]? = (explode delim text)[index]? := by
  -- only a last empty field is lost between the two ways to split
  simp only [split]
  split
  next trailing =>
    have room : index < (explode delim text).length - 1 := by
      rcases kept with before | ⟨part, known, some'⟩
      next => omega
      next =>
        have inside := (List.getElem?_eq_some_iff.mp known).1
        have notLast : index ≠ (explode delim text).length - 1 := by
          intro last
          rw [List.getLast?_eq_getElem?, ← last, known] at trailing
          exact some' (Option.some.inj trailing)
        omega
    rw [List.getElem?_dropLast]
    simp [room]
  next => rfl

end Hes.Text
