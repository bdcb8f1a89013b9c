import Mathlib.Tactic.IntervalCases
import Hes.MqttRobust
import Hes.Routes

set_option autoImplicit false

namespace Hes.Mqtt

open Text Routes

/-- What the decoded command of a download type holds. -/
inductive Wanted where
  | only (command : UInt8)
  | both (command subCommand : UInt8)
  | mesh (packetType : UInt8)
  | nothing
  deriving DecidableEq, Repr

def eventCommand : UInt8 := 0x08

def readCommand : UInt8 := 0x00

def writeCommand : UInt8 := 0x01

def wanted : Nat -> Wanted
  -- A profile command has an attribute number of its own behind the command.
  | 0 => .only 0
  | 1 => .only 1
  | 2 => .only 2
  | 3 => .only 3
  | 4 => .only 4
  | 5 => .both eventCommand 0x00
  | 6 => .both eventCommand 0x01
  | 7 => .both eventCommand 0x02
  | 8 => .both eventCommand 0x03
  | 9 => .both eventCommand 0x04
  | 10 => .both eventCommand 0x05
  | 11 => .both eventCommand 0x06
  | 12 => .both eventCommand 0x07
  | 13 => .mesh 0x0D
  | 14 => .both readCommand 0x09
  | 15 => .both readCommand 0x02
  | 16 => .both writeCommand 0x02
  | 17 => .both readCommand 0x01
  | 18 => .both writeCommand 0x01
  | 19 => .both readCommand 0x01
  | 20 => .both writeCommand 0x01
  | 21 => .both readCommand 0x08
  | 22 => .both writeCommand 0x08
  | 23 => .both readCommand 0x09
  | 24 => .both writeCommand 0x09
  | 25 => .both writeCommand 0x07
  -- The calendar, the firmware upgrades and versions and the reset have no command to compare.
  | _ => .nothing

def Wanted.Holds (wanted : Wanted) (decoded : Bytes) : Prop :=
  match wanted with
  | .only command => byteAt decoded 4 = command
  | .both command subCommand => byteAt decoded 4 = command /\ byteAt decoded 5 = subCommand
  | .mesh packetType => byteAt decoded 2 = packetType
  | .nothing => False

instance (wanted : Wanted) (decoded : Bytes) : Decidable (wanted.Holds decoded) := by
  unfold Wanted.Holds
  split <;> infer_instance

/-- Exactly one of the two bytes is the wanted one. -/
def Wanted.Half (wanted : Wanted) (decoded : Bytes) : Prop :=
  match wanted with
  | .both command subCommand =>
    ¬ (byteAt decoded 4 = command <-> byteAt decoded 5 = subCommand)
  | _ => False

instance (wanted : Wanted) (decoded : Bytes) : Decidable (wanted.Half decoded) := by
  unfold Wanted.Half
  split <;> infer_instance

/-- The number of a download type that is written with two digits. -/
def typeNumber (text : Bytes) : Nat :=
  10 * ((byteAt text 0).toNat - 0x30) + ((byteAt text 1).toNat - 0x30)

def wantedOf (parts : List Bytes) : Wanted := wanted (typeNumber (part parts 4))

/-- The text of the command is whole bytes, and there are eight of them or more. -/
def Decodes (text : Bytes) : Prop := text.length % 2 = 0 /\ 8 ≤ (hexDecode text).length

instance (text : Bytes) : Decidable (Decodes text) := by
  unfold Decodes
  infer_instance

def CommandBelongs (parts : List Bytes) : Prop :=
  Decodes (part parts 5) /\ (wantedOf parts).Holds (hexDecode (part parts 5))

instance (parts : List Bytes) : Decidable (CommandBelongs parts) := by
  unfold CommandBelongs
  infer_instance

def ValidatedExactly (parts : List Bytes) : Prop :=
  validateCommand parts = .ok (decide (CommandBelongs parts))

/-- A read for a write, or the same operation on another object of the meter. -/
def HalfRight (parts : List Bytes) : Prop :=
  Decodes (part parts 5) /\ (wantedOf parts).Half (hexDecode (part parts 5))

instance (parts : List Bytes) : Decidable (HalfRight parts) := by
  unfold HalfRight
  infer_instance

theorem eitherMatches_holds (command subCommand expected expectedSub : UInt8) :
    eitherMatches command subCommand expected expectedSub =
      decide (command = expected \/ subCommand = expectedSub) := by
  by_cases first : command = expected <;> by_cases second : subCommand = expectedSub <;>
    simp [eitherMatches, first, second]

/-- What the switch accepts: one byte of the two that are wanted. -/
theorem commandMatches_holds (code : Nat) (small : code < 32) (decoded : Bytes) :
    commandMatches (toUInt8 (code : Int)) (byteAt decoded 4) (byteAt decoded 5)
        (byteAt decoded 2) = true <->
      (wanted code).Holds decoded \/ (wanted code).Half decoded := by
  generalize command : byteAt decoded 4 = first
  generalize subCommand : byteAt decoded 5 = second
  generalize packetType : byteAt decoded 2 = third
  have profile (kind : UInt8) : decide (first = kind) = true <-> (Wanted.only kind).Holds decoded \/
      (Wanted.only kind).Half decoded := by
    simp [Wanted.Holds, Wanted.Half, command]
  have either (expected expectedSub : UInt8) :
      eitherMatches first second expected expectedSub = true <->
        (Wanted.both expected expectedSub).Holds decoded \/
          (Wanted.both expected expectedSub).Half decoded := by
    rw [eitherMatches_holds, decide_eq_true_iff]
    simp only [Wanted.Holds, Wanted.Half, command, subCommand]
    tauto
  interval_cases code
  all_goals first
    | exact either _ _
    | exact profile _
    | simp [commandMatches, toUInt8, wanted, Wanted.Holds, Wanted.Half, packetType]

theorem allowed_typeNumber (text : Bytes) (allowed : text ∈ allowedCmds) :
    typeNumber text < 32 /\ stoi text = .ok (typeNumber text : Int) := by
  revert text
  decide +kernel

/-- Beyond the type and the digits, the command is accepted for one right byte. -/
theorem validateCommand_half (parts : List Bytes) (allowed : part parts 4 ∈ allowedCmds)
    (hex : HexText (part parts 5)) :
    validateCommand parts = .ok (decide (CommandBelongs parts \/ HalfRight parts)) := by
  obtain ⟨small, read⟩ := allowed_typeNumber _ allowed
  have matched := commandMatches_holds _ small (hexDecode (part parts 5))
  simp only [validateCommand, read, hexToBytes, CommandBelongs, HalfRight, Decodes]
  by_cases even : (part parts 5).length % 2 = 0
  next =>
    rw [hexPairs_decode _ even hex]
    by_cases short : (hexDecode (part parts 5)).length < 8
    next =>
      have few : ¬ 8 ≤ (hexDecode (part parts 5)).length := by omega
      simp [even, short, few, bind, Except.bind, Except.map, pure, Except.pure]
    next =>
      have enough : 8 ≤ (hexDecode (part parts 5)).length := by omega
      simp only [bind, Except.bind, even, ne_eq, not_true_eq_false, if_false, Except.map, short,
        pure, Except.pure, enough, and_self, true_and, Except.ok.injEq, wantedOf]
      exact Bool.eq_iff_iff.mpr (matched.trans decide_eq_true_iff.symm)
  next => simp [even, bind, Except.bind, pure, Except.pure]

theorem Wanted.half_not_holds (wanted : Wanted) (decoded : Bytes) (half : wanted.Half decoded) :
    ¬ wanted.Holds decoded := by
  cases wanted with
  | both command subCommand =>
    rintro ⟨first, second⟩
    exact half (by simp [first, second])
  | only command => exact half.elim
  | mesh packetType => exact half.elim
  | nothing => exact half.elim

/-- The load limit is asked for, with the command that reads it. -/
def limitRead : List Bytes :=
  [ascii "7", ascii "AB", ascii "0", ascii "AB", ascii "21", ascii "2E14000000080000"]

/-- The load limit is asked for, with the command that writes it. -/
def limitWrite : List Bytes :=
  [ascii "7", ascii "AB", ascii "0", ascii "AB", ascii "21", ascii "2E14000001080000"]

/-- A command is validated exactly unless one of its two bytes alone is right. -/
theorem validateCommand_exact_iff (parts : List Bytes) (allowed : part parts 4 ∈ allowedCmds)
    (hex : HexText (part parts 5)) : ValidatedExactly parts <-> ¬ HalfRight parts := by
  rw [ValidatedExactly, validateCommand_half parts allowed hex]
  by_cases half : HalfRight parts
  next =>
    have other : ¬ CommandBelongs parts := fun belongs =>
      Wanted.half_not_holds _ _ half.2 belongs.2
    simp [half, other]
  next => simp [half]

theorem validateCommand_exact_iff_read :
    part limitRead 4 ∈ allowedCmds /\ HexText (part limitRead 5) /\ ValidatedExactly limitRead := by
  have hex : HexText (part limitRead 5) := by
    unfold HexText
    decide +kernel
  refine ⟨by decide +kernel, hex, ?_⟩
  apply (validateCommand_exact_iff _ (by decide +kernel) hex).mpr
  decide +kernel

theorem limitWrite_accepted :
    ¬ (forall parts, part parts 4 ∈ allowedCmds -> HexText (part parts 5) ->
      (validateCommand parts = .ok true <-> CommandBelongs parts)) := by
  intro exact'
  have hex : HexText (part limitWrite 5) := by
    unfold HexText
    decide +kernel
  have belongs := (exact' limitWrite (by decide +kernel) hex).mp
    (by decide +kernel)
  revert belongs
  decide +kernel

end Hes.Mqtt
