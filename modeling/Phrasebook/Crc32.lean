namespace Phrasebook.Crc32

/-!
# CRC-32

The cyclic redundancy check with the reflected polynomial `0xEDB88320`, the register starting at
all ones and inverted at the end.  A register is a word of 32 bits and an octet enters at its low
end.

* `shift` — one bit leaves the register;
* `absorb` — an octet enters, and eight bits leave;
* `checksum` — the check value of a sequence of octets.
-/

/-- The polynomial, lowest power in the highest bit. -/
def polynomial : BitVec 32 := 0xEDB88320#32

/-- Drops the lowest bit, and adds the polynomial when it was set. -/
def shift (register : BitVec 32) : BitVec 32 :=
  if register.getLsbD 0 then (register >>> 1) ^^^ polynomial else register >>> 1

/-- `n` shifts. -/
def shifts : Nat → BitVec 32 → BitVec 32
  | 0, register => register
  | n + 1, register => shifts n (shift register)

/-- Takes in one octet. -/
def absorb (register : BitVec 32) (octet : UInt8) : BitVec 32 :=
  shifts 8 (register ^^^ octet.toBitVec.zeroExtend 32)

/-- The check value of a sequence of octets. -/
def checksum (octets : List UInt8) : BitVec 32 :=
  octets.foldl absorb (BitVec.allOnes 32) ^^^ BitVec.allOnes 32

end Phrasebook.Crc32
