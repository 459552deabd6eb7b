set_option autoImplicit false

/-! # Random bytes

Random numbers come from a counter-based generator: a 64-bit key and a 64-bit counter are mixed by
twenty rounds of additions, rotations and exclusive ors. A key never repeats its stream: drawing a
byte splits the key into the key of all later draws and a key for this one. -/

namespace Chip8

/-- A pair of 32-bit words: a key, a counter or a mixed block. -/
structure RandomKey where
  high : UInt32
  low : UInt32
deriving DecidableEq

namespace RandomKey

/-- The key of a machine that was given none. -/
def zero : RandomKey := ⟨0, 0⟩

/-- Rotate a word to the left by a distance below 32. -/
def rotateLeft (w : UInt32) (distance : UInt32) : UInt32 :=
  (w <<< distance) ||| (w >>> (32 - distance))

/-- One round: add, rotate, combine. -/
def mixRound (b : RandomKey) (distance : UInt32) : RandomKey :=
  let high := b.high + b.low
  ⟨high, rotateLeft b.low distance ^^^ high⟩

/-- The rotation distances of the even and the odd groups of four rounds. -/
def distances (group : Nat) : List UInt32 :=
  if group % 2 = 0 then [13, 15, 26, 6] else [17, 29, 16, 24]

/-- The word of the key schedule with a given number, modulo 3. -/
def scheduled (key : RandomKey) (k : Nat) : UInt32 :=
  match k % 3 with
  | 0 => key.high
  | 1 => key.low
  | _ => key.high ^^^ key.low ^^^ 0x1BD11BDA

/-- Four rounds, then the next words of the key schedule and the number of the group. -/
def mixGroup (key : RandomKey) (b : RandomKey) (group : Nat) : RandomKey :=
  let b := (distances group).foldl mixRound b
  ⟨b.high + key.scheduled (group + 1),
   b.low + key.scheduled (group + 2) + UInt32.ofNat (group + 1)⟩

/-- The block that a key makes of a counter. -/
def mix (key counter : RandomKey) : RandomKey :=
  [0, 1, 2, 3, 4].foldl key.mixGroup
    ⟨counter.high + key.scheduled 0, counter.low + key.scheduled 1⟩

/-- The first half of a split key: the key of all later draws. -/
def next (key : RandomKey) : RandomKey := key.mix ⟨0, 0⟩

/-- The second half of a split key: the key of one draw. -/
def fork (key : RandomKey) : RandomKey := key.mix ⟨0, 1⟩

/-- The random byte that a key draws. -/
def byte (key : RandomKey) : UInt8 :=
  let block := key.fork.fork.mix ⟨0, 0⟩
  (block.high ^^^ block.low).toUInt8

end RandomKey

end Chip8
