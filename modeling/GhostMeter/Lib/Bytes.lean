import Mathlib.Algebra.Order.Ring.Int
import Mathlib.Data.List.Basic
import Mathlib.Tactic.Positivity
import Mathlib.Tactic.Ring

/-! Numbers as big-endian bytes, and bytes as 16-bit words. -/

namespace GhostMeter.Lib.Bytes

/-- The last `w` bytes of a number, the most significant first. -/
def toBytes : ℕ → ℕ → List ℕ
  | 0, _ => []
  | w + 1, n => n / 256 ^ w % 256 :: toBytes w n

def ofBytes : List ℕ → ℕ
  | [] => 0
  | b :: bs => b * 256 ^ bs.length + ofBytes bs

/-- The 16-bit words of a sequence of bytes. -/
def toWords : List ℕ → List ℕ
  | a :: b :: bs => (256 * a + b) :: toWords bs
  | _ => []

def ofWords : List ℕ → List ℕ
  | [] => []
  | w :: ws => w / 256 :: w % 256 :: ofWords ws

/-- The two bytes of every word, exchanged. -/
def swapPairs : List ℕ → List ℕ
  | a :: b :: bs => b :: a :: swapPairs bs
  | bs => bs

/-- The bytes of one word, exchanged. -/
def swapBytes (w : ℕ) : ℕ := 256 * (w % 256) + w / 256

/-- A number in two's complement of `w` bytes. -/
def ofInt (w : ℕ) (n : ℤ) : ℕ := (n % 256 ^ w).toNat

def toInt (w : ℕ) (k : ℕ) : ℤ := if 2 * k < 256 ^ w then k else k - 256 ^ w

variable {w n : ℕ} {bs bs' ws : List ℕ}

@[simp] theorem length_toBytes (w n : ℕ) : (toBytes w n).length = w := by
  induction w with
  | zero => rfl
  | succ w ih => simp [toBytes, ih]

theorem toBytes_lt : ∀ b ∈ toBytes w n, b < 256 := by
  induction w with
  | zero => simp [toBytes]
  | succ w ih =>
    intro b hb
    rcases List.mem_cons.1 hb with rfl | hb
    · exact Nat.mod_lt _ (by norm_num)
    · exact ih b hb

theorem ofBytes_toBytes (w n : ℕ) : ofBytes (toBytes w n) = n % 256 ^ w := by
  induction w with
  | zero => simp [toBytes, ofBytes, Nat.mod_one]
  | succ w ih =>
    rw [toBytes, ofBytes, ih, length_toBytes, pow_succ, Nat.mod_mul, Nat.mul_comm, Nat.add_comm]

theorem toInt_ofInt {n : ℤ} (hw : 0 < w) (hlo : -256 ^ w ≤ 2 * n) (hhi : 2 * n < 256 ^ w) :
    toInt w (ofInt w n) = n := by
  have hpos : (0 : ℤ) < 256 ^ w := by positivity
  have hcast : ((ofInt w n : ℕ) : ℤ) = n % 256 ^ w :=
    Int.toNat_of_nonneg (Int.emod_nonneg _ hpos.ne')
  have hiff : 2 * ofInt w n < 256 ^ w ↔ 2 * (n % 256 ^ w) < 256 ^ w := by
    rw [← hcast]
    exact_mod_cast Iff.rfl
  have heven : (256 : ℤ) ^ w = 2 * (128 * 256 ^ (w - 1)) := by
    conv_lhs => rw [← Nat.sub_add_cancel hw, pow_succ]
    ring
  unfold toInt
  rw [hcast]
  simp only [hiff]
  rcases lt_or_ge n 0 with hneg | hnonneg
  · have hmod : n % 256 ^ w = n + 256 ^ w := by
      rw [← Int.add_emod_right, Int.emod_eq_of_lt (by omega) (by omega)]
    rw [hmod, if_neg (by omega)]
    ring
  · have hmod : n % 256 ^ w = n := Int.emod_eq_of_lt hnonneg (by omega)
    rw [hmod, if_pos hhi]

section Words

theorem ofWords_toWords : ∀ {bs : List ℕ}, (∀ b ∈ bs, b < 256) → Even bs.length →
    ofWords (toWords bs) = bs
  | [], _, _ => rfl
  | [_], _, h => by simp at h
  | a :: b :: bs, hlt, h => by
    have hb : b < 256 := hlt b (by simp)
    have hrest : ofWords (toWords bs) = bs :=
      ofWords_toWords (fun c hc => hlt c (by simp [hc])) (by simpa [Nat.even_add_one] using h)
    rw [toWords, ofWords, hrest]
    congr 1
    · omega
    · congr 1
      omega

theorem toWords_lt : ∀ {bs : List ℕ}, (∀ b ∈ bs, b < 256) → ∀ w ∈ toWords bs, w < 65536
  | [], _ => by simp [toWords]
  | [_], _ => by simp [toWords]
  | a :: b :: bs, hlt => by
    intro w hw
    rcases List.mem_cons.1 hw with rfl | hw
    · have ha := hlt a (by simp)
      have hb := hlt b (by simp)
      omega
    · exact toWords_lt (fun c hc => hlt c (by simp [hc])) w hw

theorem length_toWords : ∀ bs : List ℕ, (toWords bs).length = bs.length / 2
  | [] => rfl
  | [_] => by simp [toWords]
  | a :: b :: bs => by
    rw [toWords, List.length_cons, length_toWords bs, List.length_cons, List.length_cons]
    omega

theorem swapPairs_append : ∀ {bs : List ℕ}, Even bs.length → ∀ bs', swapPairs (bs ++ bs') =
    swapPairs bs ++ swapPairs bs'
  | [], _, _ => rfl
  | [_], h, _ => by simp at h
  | a :: b :: bs, h, bs' => by
    have heven : Even bs.length := by simpa [Nat.even_add_one] using h
    simp [swapPairs, swapPairs_append heven]

@[simp] theorem length_swapPairs : ∀ bs : List ℕ, (swapPairs bs).length = bs.length
  | [] => rfl
  | [_] => rfl
  | a :: b :: bs => by simp [swapPairs, length_swapPairs bs]

theorem toWords_append : ∀ {bs : List ℕ}, Even bs.length → ∀ bs', toWords (bs ++ bs') =
    toWords bs ++ toWords bs'
  | [], _, _ => rfl
  | [_], h, _ => by simp at h
  | a :: b :: bs, h, bs' => by
    have heven : Even bs.length := by simpa [Nat.even_add_one] using h
    simp [toWords, toWords_append heven]

/-- Exchanging the bytes of the words exchanges pairs of bytes. -/
theorem map_swapBytes_toWords : ∀ {bs : List ℕ}, (∀ b ∈ bs, b < 256) →
    (toWords bs).map swapBytes = toWords (swapPairs bs)
  | [], _ => rfl
  | [_], _ => rfl
  | a :: b :: bs, hlt => by
    have ha := hlt a (by simp)
    have hb := hlt b (by simp)
    rw [toWords, List.map_cons, map_swapBytes_toWords fun c hc => hlt c (by simp [hc]), swapPairs,
      toWords, swapBytes]
    congr 1
    omega

/-- Reversing the words reverses the bytes and puts those of a word back in order. -/
theorem reverse_toWords : ∀ {bs : List ℕ}, Even bs.length →
    (toWords bs).reverse = toWords (swapPairs bs.reverse)
  | [], _ => rfl
  | [_], h => by simp at h
  | a :: b :: bs, h => by
    have heven : Even bs.length := by simpa [Nat.even_add_one] using h
    rw [toWords, List.reverse_cons, reverse_toWords heven, List.reverse_cons, List.reverse_cons,
      List.append_assoc, swapPairs_append (by simpa using heven),
      toWords_append (by simpa using heven)]
    rfl

@[simp] theorem swapPairs_swapPairs : ∀ bs : List ℕ, swapPairs (swapPairs bs) = bs
  | [] => rfl
  | [_] => rfl
  | a :: b :: bs => by simp [swapPairs, swapPairs_swapPairs bs]

theorem reverse_swapPairs : ∀ {bs : List ℕ}, Even bs.length →
    (swapPairs bs).reverse = swapPairs bs.reverse
  | [], _ => rfl
  | [_], h => by simp at h
  | a :: b :: bs, h => by
    have heven : Even bs.length := by simpa [Nat.even_add_one] using h
    rw [swapPairs, List.reverse_cons, List.reverse_cons, reverse_swapPairs heven,
      List.reverse_cons, List.reverse_cons, List.append_assoc, List.append_assoc,
      swapPairs_append (by simpa using heven)]
    rfl

theorem mem_swapPairs {b : ℕ} : ∀ {bs : List ℕ}, b ∈ swapPairs bs ↔ b ∈ bs
  | [] => Iff.rfl
  | [_] => Iff.rfl
  | a :: a' :: bs => by
    rw [swapPairs, List.mem_cons, List.mem_cons, List.mem_cons, List.mem_cons, mem_swapPairs]
    exact or_left_comm

end Words

end GhostMeter.Lib.Bytes
