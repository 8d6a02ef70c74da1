/-
  Fdbus.Library.LittleEndian — little-endian integers as byte strings.

  `leNat` reads a byte string of any length as a number, least significant byte
  first; `leBytes w n` writes the low `w` bytes of `n`.  The two are inverse to each
  other up to the width:

    * `leNat_leBytes` — reading what was written gives `n mod 256 ^ w`,
    * `leBytes_leNat` — writing what was read gives the same bytes back.

  Nothing here is about a particular wire format.
-/
import Mathlib

namespace Fdbus.LittleEndian

open List

/-! ## §1. Reading and writing. -/

/-- The number a little-endian byte string stands for. -/
def leNat : List UInt8 → Nat
  | [] => 0
  | b :: bs => b.toNat + 256 * leNat bs

/-- The low `w` bytes of `n`, least significant first. -/
def leBytes : Nat → Nat → List UInt8
  | 0, _ => []
  | w + 1, n => UInt8.ofNat (n % 256) :: leBytes w (n / 256)

@[simp] theorem length_leBytes (w n : Nat) : (leBytes w n).length = w := by
  induction w generalizing n with
  | zero => rfl
  | succ w ih => simp [leBytes, ih]

theorem leNat_lt (bs : List UInt8) : leNat bs < 256 ^ bs.length := by
  induction bs with
  | nil => simp [leNat]
  | cons b bs ih =>
    have hb : b.toNat < 256 := b.toNat_lt
    show b.toNat + 256 * leNat bs < 256 ^ bs.length * 256
    omega

/-! ## §2. Round trips. -/

/-- **Reading back what was written**, up to the width. -/
theorem leNat_leBytes (w n : Nat) : leNat (leBytes w n) = n % 256 ^ w := by
  induction w generalizing n with
  | zero => simp [leBytes, leNat, Nat.mod_one]
  | succ w ih =>
    have hbyte : (UInt8.ofNat (n % 256)).toNat = n % 256 := by
      simp [UInt8.toNat_ofNat']
    show (UInt8.ofNat (n % 256)).toNat + 256 * leNat (leBytes w (n / 256)) = _
    rw [hbyte, ih, Nat.pow_succ, Nat.mul_comm (256 ^ w) 256, Nat.mod_mul]

/-- The value survives when it fits the width. -/
theorem leNat_leBytes_of_lt {w n : Nat} (h : n < 256 ^ w) :
    leNat (leBytes w n) = n := by
  rw [leNat_leBytes, Nat.mod_eq_of_lt h]

/-- **Writing back what was read.** -/
theorem leBytes_leNat (bs : List UInt8) : leBytes bs.length (leNat bs) = bs := by
  induction bs with
  | nil => rfl
  | cons b bs ih =>
    have hb : b.toNat < 256 := b.toNat_lt
    have hlow : (b.toNat + 256 * leNat bs) % 256 = b.toNat := by omega
    have hhigh : (b.toNat + 256 * leNat bs) / 256 = leNat bs := by omega
    show UInt8.ofNat ((b.toNat + 256 * leNat bs) % 256)
      :: leBytes bs.length ((b.toNat + 256 * leNat bs) / 256) = _
    rw [hlow, hhigh, ih, UInt8.ofNat_toNat]

/-- Byte strings of one length are determined by their numbers. -/
theorem leNat_inj {bs bs' : List UInt8} (hlen : bs.length = bs'.length)
    (h : leNat bs = leNat bs') : bs = bs' := by
  rw [← leBytes_leNat bs, ← leBytes_leNat bs', hlen, h]

/-- The bytes are those of the number reduced to their width. -/
theorem leBytes_mod (w : Nat) : ∀ n, leBytes w (n % 256 ^ w) = leBytes w n := by
  induction w with
  | zero => intro n; rfl
  | succ w ih =>
    intro n
    show UInt8.ofNat (n % 256 ^ (w + 1) % 256) :: leBytes w (n % 256 ^ (w + 1) / 256)
      = UInt8.ofNat (n % 256) :: leBytes w (n / 256)
    rw [Nat.pow_succ', Nat.mod_mul_right_mod, Nat.mod_mul_right_div_self, ih]

/-- The bytes one by one. -/
theorem leBytes_eq_map (w : Nat) :
    ∀ n, leBytes w n = (range w).map fun i => UInt8.ofNat (n / 256 ^ i % 256) := by
  induction w with
  | zero => intro n; rfl
  | succ w ih =>
    intro n
    rw [range_succ_eq_map, map_cons, map_map]
    show UInt8.ofNat (n % 256) :: leBytes w (n / 256) = _
    rw [ih, Nat.pow_zero, Nat.div_one]
    congr 1
    apply map_congr_left
    intro i _
    show _ = UInt8.ofNat (n / 256 ^ (i + 1) % 256)
    rw [Nat.pow_succ', Nat.div_div_eq_div_mul]

end Fdbus.LittleEndian
