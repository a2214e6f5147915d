import AppScaffold.Archive.Basic
import AppScaffold.Archive.Checksum

/-!
# Archives as bytes

The written form of an archive: each entry as it is, then a directory of all entries. `decode?`
reads what `encode` writes.
-/

set_option autoImplicit false

namespace AppScaffold.Archive

/-- The bytes of a number, the least significant first. -/
def littleEndian (count n : Nat) : ByteArray :=
  ByteArray.mk ((List.range count).map fun i => (n / Nat.pow 256 i).toUInt8).toArray

def valueAt (bytes : ByteArray) (start count : Nat) : Nat :=
  (List.range count).foldr (fun i n => n * 256 + (bytes.get! (start + i)).toNat) 0

def u16 (n : Nat) : ByteArray := littleEndian 2 n

def u32 (n : Nat) : ByteArray := littleEndian 4 n

/-- The fields that an entry has both before its contents and in the directory: names are written
in a universal encoding, contents are stored as they are, and there is no time. -/
def Entry.common (e : Entry) : ByteArray :=
  u16 20 ++ u16 0x0800 ++ u16 0 ++ u16 0 ++ u16 0x21 ++ u32 (crc32 e.contents).toNat ++
    u32 e.contents.size ++ u32 e.contents.size ++ u16 e.name.toUTF8.size ++ u16 0

def localMark : Nat := 0x04034b50

def directoryMark : Nat := 0x02014b50

def endMark : Nat := 0x06054b50

def Entry.encode (e : Entry) : ByteArray :=
  u32 localMark ++ e.common ++ e.name.toUTF8 ++ e.contents

def Entry.directoryLine (e : Entry) (offset : Nat) : ByteArray :=
  u32 directoryMark ++ u16 (3 * 256 + 20) ++ e.common ++ u16 0 ++ u16 0 ++ u16 0 ++
    u32 ((0o100000 + e.mode) * 0x10000) ++ u32 offset ++ e.name.toUTF8

def encode (a : Archive) : ByteArray :=
  let (entries, directory) := a.foldl (fun (acc : ByteArray × ByteArray) e =>
    (acc.1 ++ e.encode, acc.2 ++ e.directoryLine acc.1.size)) (ByteArray.empty, ByteArray.empty)
  entries ++ directory ++ u32 endMark ++ u16 0 ++ u16 0 ++ u16 a.length ++ u16 a.length ++
    u32 directory.size ++ u32 entries.size ++ u16 0

/-- The size of what follows the directory. -/
def endSize : Nat := 22

def decodeEntries (bytes : ByteArray) : Nat → Nat → Option Archive
  | 0, _ => some []
  | count + 1, at_ =>
    if bytes.size < at_ + 46 || valueAt bytes at_ 4 != directoryMark then none
    else do
      let size := valueAt bytes (at_ + 24) 4
      let nameSize := valueAt bytes (at_ + 28) 2
      let extraSize := valueAt bytes (at_ + 30) 2 + valueAt bytes (at_ + 32) 2
      let mode := valueAt bytes (at_ + 38) 4 / 0x10000 % 0o1000
      let offset := valueAt bytes (at_ + 42) 4
      let name ← String.fromUTF8? (bytes.extract (at_ + 46) (at_ + 46 + nameSize))
      if bytes.size < offset + 30 then none
      else
        let start := offset + 30 + valueAt bytes (offset + 26) 2 + valueAt bytes (offset + 28) 2
        let rest ← decodeEntries bytes count (at_ + 46 + nameSize + extraSize)
        some (⟨name, bytes.extract start (start + size), mode⟩ :: rest)

def decode? (bytes : ByteArray) : Option Archive :=
  if bytes.size < endSize then none
  else
    let at_ := bytes.size - endSize
    if valueAt bytes at_ 4 != endMark then none
    else decodeEntries bytes (valueAt bytes (at_ + 10) 2) (valueAt bytes (at_ + 16) 4)

end AppScaffold.Archive
