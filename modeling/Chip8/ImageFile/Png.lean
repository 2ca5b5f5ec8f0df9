import Chip8.Picture

/-!
# The PNG format

A picture is written as three chunks: its header, its rows and an end mark.
Each chunk carries a cyclic checksum.  The rows are stored without
compression, in blocks of a limited size.
-/

namespace Chip8.Png

def checkBit (state : UInt32) : UInt32 :=
  if state &&& 1 = 1 then (state >>> 1) ^^^ 0xEDB88320 else state >>> 1

/-- The state of the cyclic checksum after a byte. -/
def checkByte (state : UInt32) (byte : UInt8) : UInt32 :=
  Nat.repeat checkBit 8 (state ^^^ byte.toUInt32)

def cyclicChecksum (bytes : ByteArray) : UInt32 :=
  bytes.foldl checkByte 0xFFFFFFFF ^^^ 0xFFFFFFFF

def sumChecksum (bytes : ByteArray) : UInt32 :=
  let (low, high) := bytes.foldl
    (fun (low, high) byte =>
      let low := (low + byte.toUInt32) % 65521
      (low, (high + low) % 65521))
    ((1, 0) : UInt32 × UInt32)
  high <<< 16 ||| low

/-- The four bytes of a word, the highest first. -/
def bigEndian (word : UInt32) : ByteArray :=
  ⟨#[(word >>> 24).toUInt8, (word >>> 16).toUInt8, (word >>> 8).toUInt8, word.toUInt8]⟩

/-- A chunk: the size of its data, its name, the data and the checksum. -/
def chunk (name : String) (data : ByteArray) : ByteArray :=
  let body := name.toUTF8 ++ data
  bigEndian data.size.toUInt32 ++ body ++ bigEndian (cyclicChecksum body)

def blockSize : Nat := 65535

/-- A stored block: whether it is the last one, its size and the complement of
the size, and the data. -/
def storedBlock (isLast : Bool) (data : ByteArray) : ByteArray :=
  let size := data.size.toUInt16
  let complement := size ^^^ 0xFFFF
  ⟨#[if isLast then 1 else 0, size.toUInt8, (size >>> 8).toUInt8,
    complement.toUInt8, (complement >>> 8).toUInt8]⟩ ++ data

/-- Stored data: a header, blocks and a checksum. -/
def stored (data : ByteArray) : ByteArray :=
  let last := (data.size - 1) / blockSize
  let blocks := (List.range (last + 1)).foldl
    (fun blocks number =>
      blocks ++ storedBlock (number = last)
        (data.extract (number * blockSize) ((number + 1) * blockSize)))
    ByteArray.empty
  ⟨#[0x78, 0x01]⟩ ++ blocks ++ bigEndian (sumChecksum data)

/-- The bytes of the rows.  Each row starts with a zero: it is not filtered. -/
def rowBytes (picture : Picture) : ByteArray :=
  picture.foldl
    (fun bytes row => row.foldl
      (fun bytes color => ((bytes.push color.red).push color.green).push color.blue)
      (bytes.push 0))
    ByteArray.empty

/-- The header of a colour picture with eight bits for each part of a colour. -/
def header (picture : Picture) : ByteArray :=
  bigEndian (picture.headD []).length.toUInt32 ++ bigEndian picture.length.toUInt32 ++
    ⟨#[8, 2, 0, 0, 0]⟩

/-- The first bytes of every file. -/
def signature : ByteArray := ⟨#[0x89, 0x50, 0x4E, 0x47, 0x0D, 0x0A, 0x1A, 0x0A]⟩

def encode (picture : Picture) : ByteArray :=
  signature ++ chunk "IHDR" (header picture) ++ chunk "IDAT" (stored (rowBytes picture)) ++
    chunk "IEND" ByteArray.empty

end Chip8.Png
