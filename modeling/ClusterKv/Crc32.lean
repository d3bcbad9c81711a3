import ClusterKv.Bytes

/-! The IEEE CRC-32 of a byte string: reflected, polynomial `0x04C11DB7`, register and result
complemented. -/

namespace ClusterKv.Crc32

/-- Divides the register by `x`, folding the polynomial back in when a one falls out. -/
@[inline] def shift (register : UInt32) : UInt32 :=
  if register &&& 1 = 1 then (register >>> 1) ^^^ 0xEDB88320 else register >>> 1

/-- Feeds one octet into the register, least significant bit first. -/
@[inline] def update (register : UInt32) (octet : UInt8) : UInt32 :=
  shift (shift (shift (shift (shift (shift (shift (shift (register ^^^ octet.toUInt32))))))))

/-- The register after a byte string. -/
def feed (register : UInt32) (bytes : Bytes) : UInt32 := bytes.foldl update register

end Crc32

/-- The checksum of a byte string. -/
def crc32 (bytes : Bytes) : UInt32 := Crc32.feed 0xFFFFFFFF bytes ^^^ 0xFFFFFFFF

theorem Crc32.feed_append (register : UInt32) (a b : Bytes) :
    feed register (a ++ b) = feed (feed register a) b := List.foldl_append

end ClusterKv
