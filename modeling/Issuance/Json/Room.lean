/-! # Room for a growing list

An item just past the room grows it: a small list doubles, one of 256 items
or more by a quarter; the bytes asked for round up to the allocator's size
classes, and the room is the items that fit. -/
namespace Issuance.Json.Room

def sizeClasses : List Nat :=
  [8, 16, 24, 32, 48, 64, 80, 96, 112, 128, 144, 160, 176, 192, 208, 224, 240, 256, 288, 320, 352,
    384, 416, 448, 480, 512, 576, 640, 704, 768, 896, 1024, 1152, 1280, 1408, 1536, 1792, 2048, 2304,
    2688, 3072, 3200, 3456, 4096, 4864, 5376, 6144, 6528, 6784, 6912, 8192, 9472, 9728, 10240, 10880,
    12288, 13568, 14336, 16384, 18432, 19072, 20480, 21760, 24576, 27264, 28672, 32768]

/-- The usable size of the block handed out for a request of some bytes:
its class less the header a large enough block with pointers keeps. -/
def roundUpSize (size : Nat) (pointers : Bool) : Nat :=
  let header := if pointers && size > 512 then 8 else 0
  let asked := size + header
  if asked ≤ 32768 - 8 then
    match sizeClasses.find? (asked ≤ ·) with
    | some c => c - header
    | none => asked - header
  else (size + 8191) / 8192 * 8192

def nextRoom (room : Nat) : Nat :=
  let need := room + 1
  if need > 2 * room then need
  else if room < 256 then 2 * room
  else room + (room + 768) / 4

def grown (itemSize : Nat) (pointers : Bool) (room : Nat) : Nat :=
  if itemSize = 0 then room + 1
  else roundUpSize (nextRoom room * itemSize) pointers / itemSize

end Issuance.Json.Room
