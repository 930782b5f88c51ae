import DebugRegisters.Error
import DebugRegisters.Text.Blank
import DebugRegisters.Text.Fields

/-!
# Mask tables

The byte masks that a restricted kernel accepts. Each selects the lowest bytes
of the window, they are listed from the smallest to the largest, and the mask of
the whole window is always there, so every mask has a larger one in the table.
-/

set_option autoImplicit false

namespace DebugRegisters

/-- The mask selects the bytes of the window up to some offset, and at least one. -/
def isLowMask (mask : UInt8) : Bool :=
  mask != 0 && mask.toNat &&& (mask.toNat + 1) == 0

def insertMask (mask : UInt8) : List UInt8 → List UInt8
  | [] => [mask]
  | first :: rest =>
      if mask < first then mask :: first :: rest
      else if mask = first then first :: rest
      else first :: insertMask mask rest

def sortMasks (masks : List UInt8) : List UInt8 :=
  masks.foldr insertMask []

structure MaskTable where
  masks : List UInt8
  deriving DecidableEq, Repr

namespace MaskTable

/-- The masks that kernels accepted before byte masks were free. -/
def standard : MaskTable := ⟨[0x01, 0x03, 0x0f, 0xff]⟩

/-- The table of the given masks. The smallest mask of a wrong shape is
reported before a missing mask of the whole window. -/
def ofMasks (masks : List UInt8) : Except InvalidSetting MaskTable :=
  let sorted := sortMasks masks
  match sorted.find? fun mask => !isLowMask mask with
  | some mask => .error (.maskShape mask)
  | none => if sorted.getLast? = some 0xff then .ok ⟨sorted⟩ else .error .maskTableEnd

def contains (table : MaskTable) (mask : ByteMask) : Bool :=
  table.masks.contains mask.bits

/-- The smallest mask of the table with at least the bytes of `mask`. As all
entries select the lowest bytes, the order of numbers decides. -/
def roundUp (table : MaskTable) (mask : ByteMask) : ByteMask :=
  match table.masks.find? fun candidate => mask.bits ≤ candidate with
  | some candidate => ⟨candidate⟩
  | none => .full

/-- The smallest length of an entry that covers `bytes` bytes from the start of
the window, or the whole window. -/
def minLength (table : MaskTable) (bytes : UInt64) : UInt64 :=
  match (table.masks.map fun mask => UInt64.ofNat (ByteMask.count ⟨mask⟩)).find?
      fun length => bytes ≤ length with
  | some length => length
  | none => 8

def text (table : MaskTable) : String :=
  ",".intercalate (table.masks.map fun mask => Hexadecimal.padded 2 mask.toNat)

instance : ToString MaskTable := ⟨text⟩

def dropMarks (mark : Char) : List Char → List Char
  | '0' :: char :: rest => if char = mark then dropMarks mark rest else '0' :: char :: rest
  | text => text

/-- Reads one entry: hexadecimal digits, with or without a mark in front. -/
def readEntry (entry : List Char) : Except InvalidSetting UInt8 :=
  match Numeral.read 16 255 (dropMarks 'X' (dropMarks 'x' entry)) with
  | .ok value => .ok (UInt8.ofNat value)
  | .error cause => .error (.maskText (String.ofList entry) cause)

/-- Reads entries separated by commas. Blanks around an entry do not count, and
an empty entry is skipped. -/
def parse (text : String) : Except InvalidSetting MaskTable := do
  let entries := ((Text.fields ',' text.toList).map Text.trim).filter fun entry => !entry.isEmpty
  ofMasks (← entries.mapM readEntry)

end MaskTable

end DebugRegisters
