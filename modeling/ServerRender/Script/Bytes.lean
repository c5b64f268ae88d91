import ServerRender.Script.Heap

/-!
# Numbers in bytes

How the items of typed arrays stand in their buffers, the byte of least weight first.
-/

namespace ServerRender.Script

namespace Bytes

/-- The bytes of a whole number modulo their range. -/
def ofInt (count : Nat) (n : Int) : List UInt8 :=
  let word := (n % (Nat.pow 256 count : Int)).toNat
  (List.range count).map fun place => UInt8.ofNat (word / Nat.pow 256 place)

/-- The whole number of some bytes. -/
def toNat (bytes : List UInt8) : Nat :=
  bytes.foldr (fun byte sum => byte.toNat + 256 * sum) 0

/-- The whole number of some bytes, the first bit of which is its sign. -/
def toInt (bytes : List UInt8) : Int :=
  let n := toNat bytes
  if 2 * n < Nat.pow 256 bytes.length then n else (n : Int) - Nat.pow 256 bytes.length

/-- The nearest whole number from 0 to 255; a half goes to the even one. -/
def clamp (x : Double) : Nat :=
  if x.isNaN || x.isNegative then 0
  else if !x.isFinite || 255 ≤ x.truncated then 255
  else
    let n := x.truncated.toNat
    let part := x.toFloat - Float.ofNat n
    if part > 0.5 || part == 0.5 && n % 2 == 1 then n + 1 else n

end Bytes

namespace ItemKind

def holdsBigints : ItemKind → Bool
  | bigInt64 => true
  | bigUint64 => true
  | _ => false

/-- The bytes of a number as an item. -/
def encode (kind : ItemKind) (value : Value) : List UInt8 :=
  let x := match value with
    | .number x => x
    | _ => Double.notANumber
  let whole := match value with
    | .bigint n => n
    | _ => if x.isFinite then x.truncated else 0
  match kind with
  | clamped => Bytes.ofInt 1 (Bytes.clamp x)
  | float32 => Bytes.ofInt 4 x.toFloat.toFloat32.toBits.toNat
  | float64 => Bytes.ofInt 8 x.bits.toNat
  | _ => Bytes.ofInt kind.size whole

/-- The number that an item stands for. -/
def decode (kind : ItemKind) (bytes : List UInt8) : Value :=
  match kind with
  | int8 => .ofInt (Bytes.toInt bytes)
  | int16 => .ofInt (Bytes.toInt bytes)
  | int32 => .ofInt (Bytes.toInt bytes)
  | bigInt64 => .bigint (Bytes.toInt bytes)
  | bigUint64 => .bigint (Bytes.toNat bytes)
  | float32 => .number (.ofFloat (Float32.ofBits (UInt32.ofNat (Bytes.toNat bytes))).toFloat)
  | float64 => .number ⟨UInt64.ofNat (Bytes.toNat bytes)⟩
  | _ => .ofNat (Bytes.toNat bytes)

end ItemKind

namespace Heap

/-- The bytes of a buffer. -/
def bytes (heap : Heap) (buffer : Nat) : Array UInt8 :=
  match (heap.get? buffer).map Object.kind with
  | some (.bytes _ content _) => content
  | _ => #[]

/-- An item of a typed array. -/
def item? (heap : Heap) (kind : ItemKind) (buffer offset count index : Nat) : Option Value :=
  if index < count then
    let start := offset + index * kind.size
    some (kind.decode ((heap.bytes buffer).extract start (start + kind.size)).toList)
  else none

/-- Puts bytes into a buffer. -/
def putBytes (heap : Heap) (buffer start : Nat) (bytes : List UInt8) : Heap :=
  heap.modify buffer fun object =>
    match object.kind with
    | .bytes isShared content limit =>
      let changed := (bytes.zipIdx start).foldl (fun content entry =>
        content.setIfInBounds entry.2 entry.1) content
      { object with kind := .bytes isShared changed limit }
    | _ => object

end Heap

end ServerRender.Script
