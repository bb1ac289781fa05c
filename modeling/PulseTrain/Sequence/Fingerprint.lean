import PulseTrain.Sequence.Basic

/-!
# Fingerprints of sequences

Callers keep the fingerprint of an uploaded sequence to see whether a new one differs. It is a
multiplicative hash over 64-bit words: the number of segments, then the state and the duration of
each. The multiplier is odd, so one word that differs is never forgotten.
-/

namespace PulseTrain

namespace Fingerprint

/-- The multiplier of the hash. -/
def multiplier : BitVec 64 := 0xf1357aea2e62a9c5#64

/-- Takes one more word into the hash. -/
def absorb (h w : BitVec 64) : BitVec 64 := (h + w) * multiplier

/-- The hash of some words; the well mixed high bits are rotated to the low end. -/
def ofWords (ws : List (BitVec 64)) : BitVec 64 := (ws.foldl absorb 0).rotateLeft 26

end Fingerprint

namespace Segment

/-- The words of a segment. -/
def words (s : Segment) : List (BitVec 64) := [s.state.bits, BitVec.ofNat 64 s.duration]

end Segment

namespace CompiledSequence

/-- The words of a sequence. -/
def words (s : CompiledSequence) : List (BitVec 64) :=
  BitVec.ofNat 64 s.size :: s.segments.flatMap Segment.words

/-- A hash of the segments. -/
def fingerprint (s : CompiledSequence) : BitVec 64 := Fingerprint.ofWords s.words

/-- The fingerprint as sixteen hexadecimal digits. -/
def fingerprintText (s : CompiledSequence) : String := s.fingerprint.toHex

end CompiledSequence

end PulseTrain
