import Asg.Basic

/-! The `base::Stream` calls of the snapshot code, and the memory a block's bytes are written
from and read into. The stream class is not among the sources; it is modelled as its names
say: a save appends bytes, a load reads them from the front. `putBe32` and `putBe64` write a
word big-endian, `putString` its length as a Be32 and then its bytes. A read past the end
gives what is left, the missing bytes of a word or string reading as zero. -/

set_option autoImplicit false

namespace Asg

def bigEndian : Nat → Nat → List UInt8
  | 0, _ => []
  | n + 1, v => bigEndian n (v / 256) ++ [(v % 256).toUInt8]

def ofBigEndian (bytes : List UInt8) : Nat :=
  bytes.foldl (fun acc b => acc * 256 + b.toNat) 0

@[simp] theorem length_bigEndian (n v : Nat) : (bigEndian n v).length = n := by
  induction n generalizing v <;> simp_all [bigEndian]

theorem ofBigEndian_bigEndian (n v : Nat) : ofBigEndian (bigEndian n v) = v % 256 ^ n := by
  induction n generalizing v with
  | zero => simp [bigEndian, ofBigEndian, Nat.mod_one]
  | succ n ih =>
    have low : ((v % 256).toUInt8).toNat = v % 256 :=
      UInt8.toNat_ofNat_of_lt (Nat.mod_lt _ (by decide))
    have ih' := ih (v / 256)
    simp only [ofBigEndian, bigEndian, List.foldl_append, List.foldl_cons, List.foldl_nil] at ih' ⊢
    have digits : v % (256 * 256 ^ n) = v % 256 + 256 * (v / 256 % 256 ^ n) := Nat.mod_mul
    rw [ih', low, Nat.pow_succ, Nat.mul_comm (256 ^ n) 256, digits]
    omega

def putBe32 (v : Nat) : List UInt8 := bigEndian 4 v

def putBe64 (v : Nat) : List UInt8 := bigEndian 8 v

def putString (s : List UInt8) : List UInt8 := putBe32 s.length ++ s

/-- `read` of `n` bytes: the bytes left, zeros for the missing ones, and the stream after. -/
def getBytes (n : Nat) (s : List UInt8) : List UInt8 × List UInt8 :=
  (s.take n ++ List.replicate (n - s.length) 0, s.drop n)

def getBe32 (s : List UInt8) : Nat × List UInt8 :=
  (ofBigEndian (getBytes 4 s).1, (getBytes 4 s).2)

def getBe64 (s : List UInt8) : Nat × List UInt8 :=
  (ofBigEndian (getBytes 8 s).1, (getBytes 8 s).2)

def getString (s : List UInt8) : List UInt8 × List UInt8 :=
  getBytes (getBe32 s).1 (getBe32 s).2

theorem getBytes_append (bytes rest : List UInt8) :
    getBytes bytes.length (bytes ++ rest) = (bytes, rest) := by
  simp [getBytes]

theorem getBe32_putBe32 (v : Nat) (rest : List UInt8) :
    getBe32 (putBe32 v ++ rest) = (v % 2 ^ 32, rest) := by
  have read := getBytes_append (bigEndian 4 v) rest
  rw [length_bigEndian] at read
  simp only [getBe32, putBe32, read, ofBigEndian_bigEndian]
  rfl

theorem getBe64_putBe64 (v : Nat) (rest : List UInt8) :
    getBe64 (putBe64 v ++ rest) = (v % 2 ^ 64, rest) := by
  have read := getBytes_append (bigEndian 8 v) rest
  rw [length_bigEndian] at read
  simp only [getBe64, putBe64, read, ofBigEndian_bigEndian]
  rfl

theorem getBe32_putBe32_of_lt {v : Nat} (small : v < 2 ^ 32) (rest : List UInt8) :
    getBe32 (putBe32 v ++ rest) = (v, rest) := by
  rw [getBe32_putBe32, Nat.mod_eq_of_lt small]

theorem getBe64_putBe64_of_lt {v : Nat} (small : v < 2 ^ 64) (rest : List UInt8) :
    getBe64 (putBe64 v ++ rest) = (v, rest) := by
  rw [getBe64_putBe64, Nat.mod_eq_of_lt small]

@[simp] theorem getString_putString {s : List UInt8} (short : s.length < 2 ^ 32)
    (rest : List UInt8) : getString (putString s ++ rest) = (s, rest) := by
  simp only [getString, putString, List.append_assoc, getBe32_putBe32_of_lt short, getBytes_append]

/-- The bytes of guest-visible memory, by address. -/
abbrev Memory := Nat → UInt8

/-- `stream->write(addr, n)`: the `n` bytes at `addr`. -/
def readBytes (mem : Memory) (addr : Nat) : Nat → List UInt8
  | 0 => []
  | n + 1 => mem addr :: readBytes mem (addr + 1) n

/-- `stream->read(addr, n)` once it has read `bytes`: they land at `addr`. -/
def writeBytes (mem : Memory) (addr : Nat) : List UInt8 → Memory
  | [] => mem
  | b :: rest => writeBytes (fun a => if a = addr then b else mem a) (addr + 1) rest

@[simp] theorem length_readBytes (mem : Memory) (addr n : Nat) :
    (readBytes mem addr n).length = n := by
  induction n generalizing addr <;> simp_all [readBytes]

theorem writeBytes_outside (mem : Memory) (addr : Nat) (bytes : List UInt8) {a : Nat}
    (outside : a < addr ∨ addr + bytes.length ≤ a) : writeBytes mem addr bytes a = mem a := by
  induction bytes generalizing mem addr with
  | nil => rfl
  | cons b rest ih =>
    simp only [List.length_cons] at outside
    rw [writeBytes, ih _ _ (by omega), if_neg (by omega)]

theorem readBytes_writeBytes (mem : Memory) (addr : Nat) (bytes : List UInt8) :
    readBytes (writeBytes mem addr bytes) addr bytes.length = bytes := by
  induction bytes generalizing mem addr with
  | nil => rfl
  | cons b rest ih =>
    simp only [List.length_cons, readBytes, writeBytes, ih, List.cons.injEq, and_true]
    rw [writeBytes_outside _ _ _ (.inl (Nat.lt_succ_self addr)), if_pos rfl]

theorem readBytes_congr {mem mem' : Memory} {addr n : Nat}
    (same : ∀ i < n, mem' (addr + i) = mem (addr + i)) : readBytes mem' addr n = readBytes mem addr n := by
  induction n generalizing addr with
  | zero => rfl
  | succ n ih =>
    simp only [readBytes, List.cons.injEq]
    refine ⟨by simpa using same 0 (Nat.succ_pos n), ih fun i below => ?_⟩
    simpa [Nat.add_assoc, Nat.add_comm 1] using same (i + 1) (by omega)

end Asg
