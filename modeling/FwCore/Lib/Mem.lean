import Mathlib.Data.Nat.ModEq

/-!
# Byte-addressed memory

Memory is a function from addresses to bytes. A word is a run of bytes in little
endian order, loaded and stored at any address; `fill` is `memset`. Everything a
client needs is in two kinds of lemma: what a store makes a load at the same place
return, and that bytes outside a stored range keep their values (`AgreeOff`).
-/

namespace FwCore.Lib

/-- The contents of every address. -/
abbrev Mem := Nat → UInt8

/-- The low `n` bytes of a number, least significant first. -/
def leBytes : Nat → Nat → List UInt8
  | 0, _ => []
  | n + 1, v => UInt8.ofNat v :: leBytes n (v / 256)

/-- The number a run of bytes stands for. -/
def ofLeBytes : List UInt8 → Nat
  | [] => 0
  | b :: bs => b.toNat + 256 * ofLeBytes bs

/-- The `n` bytes from address `a` on. -/
def Mem.bytes (m : Mem) (a : Nat) : Nat → List UInt8
  | 0 => []
  | n + 1 => m a :: Mem.bytes m (a + 1) n

/-- Load an `n`-byte word. -/
def Mem.load (m : Mem) (a n : Nat) : Nat := ofLeBytes (m.bytes a n)

/-- Store an `n`-byte word. -/
def Mem.store (m : Mem) (a n v : Nat) : Mem :=
  fun x => if a ≤ x ∧ x < a + n then (leBytes n v).getD (x - a) 0 else m x

/-- Set `n` bytes to one value. -/
def Mem.fill (m : Mem) (a n : Nat) (b : UInt8) : Mem :=
  fun x => if a ≤ x ∧ x < a + n then b else m x

/-- Two memories agree off the `n` bytes from `a` on. -/
def AgreeOff (m m' : Mem) (a n : Nat) : Prop := ∀ x, x < a ∨ a + n ≤ x → m' x = m x

/-! ## Words and bytes -/

theorem leBytes_length : ∀ (n v : Nat), (leBytes n v).length = n
  | 0, _ => rfl
  | n + 1, v => by rw [leBytes, List.length_cons, leBytes_length n]

/-- A number that fits is read back. -/
theorem ofLeBytes_leBytes : ∀ (n v : Nat), v < 256 ^ n → ofLeBytes (leBytes n v) = v
  | 0, v, h => by
      have : v = 0 := by simpa using h
      rw [this]; rfl
  | n + 1, v, h => by
      have hdiv : v / 256 < 256 ^ n := by
        rw [Nat.pow_succ] at h
        exact Nat.div_lt_of_lt_mul (by rw [Nat.mul_comm]; exact h)
      rw [leBytes, ofLeBytes, ofLeBytes_leBytes n _ hdiv, UInt8.toNat_ofNat']
      omega

theorem bytes_congr {m m' : Mem} : ∀ (n a : Nat), (∀ x, a ≤ x → x < a + n → m' x = m x) →
    m'.bytes a n = m.bytes a n
  | 0, _, _ => rfl
  | n + 1, a, h => by
      rw [Mem.bytes, Mem.bytes, h a (Nat.le_refl a) (by omega),
        bytes_congr n (a + 1) (fun x h1 h2 => h x (by omega) (by omega))]

/-- A load depends on its own bytes only. -/
theorem load_congr {m m' : Mem} {a n : Nat} (h : ∀ x, a ≤ x → x < a + n → m' x = m x) :
    m'.load a n = m.load a n := by
  rw [Mem.load, Mem.load, bytes_congr n a h]

/-- The bytes of a memory that holds a list from `a` on are that list. -/
theorem bytes_eq {m : Mem} : ∀ (bs : List UInt8) (a : Nat),
    (∀ i, i < bs.length → m (a + i) = bs.getD i 0) → m.bytes a bs.length = bs
  | [], _, _ => rfl
  | b :: bs, a, h => by
      have h0 := h 0 (by simp)
      have ih : m.bytes (a + 1) bs.length = bs := by
        refine bytes_eq bs (a + 1) (fun i hi => ?_)
        have hi' := h (i + 1) (by simpa using hi)
        rw [show a + 1 + i = a + (i + 1) by omega, hi']
        rfl
      rw [List.length_cons, Mem.bytes, ih]
      rw [Nat.add_zero] at h0
      rw [h0]
      rfl

/-! ## Stores -/

theorem store_agreeOff (m : Mem) (a n v : Nat) : AgreeOff m (m.store a n v) a n := by
  intro x hx
  rw [Mem.store, if_neg (by omega)]

theorem fill_agreeOff (m : Mem) (a n : Nat) (b : UInt8) : AgreeOff m (m.fill a n b) a n := by
  intro x hx
  rw [Mem.fill, if_neg (by omega)]

theorem load_store_self (m : Mem) {a n v : Nat} (hv : v < 256 ^ n) :
    (m.store a n v).load a n = v := by
  have hb : (m.store a n v).bytes a n = leBytes n v := by
    have h := @bytes_eq (m.store a n v) (leBytes n v) a (fun i hi => by
      rw [leBytes_length] at hi
      rw [Mem.store, if_pos ⟨by omega, by omega⟩, Nat.add_sub_cancel_left])
    rw [leBytes_length] at h
    exact h
  rw [Mem.load, hb, ofLeBytes_leBytes n v hv]

theorem ofLeBytes_zero : ∀ n, ofLeBytes (List.replicate n 0) = 0
  | 0 => rfl
  | n + 1 => by rw [List.replicate_succ, ofLeBytes, ofLeBytes_zero n]; rfl

/-- A word in a range that has been set to zero. -/
theorem load_fill_zero (m : Mem) {a n b k : Nat} (hlo : a ≤ b) (hhi : b + k ≤ a + n) :
    (m.fill a n 0).load b k = 0 := by
  have hb : (m.fill a n 0).bytes b k = List.replicate k 0 := by
    have h := @bytes_eq (m.fill a n 0) (List.replicate k 0) b (fun i hi => by
      rw [List.length_replicate] at hi
      rw [Mem.fill, if_pos ⟨by omega, by omega⟩]
      simp [hi])
    rw [List.length_replicate] at h
    exact h
  rw [Mem.load, hb, ofLeBytes_zero]

/-- A load elsewhere does not see a change confined to a range. -/
theorem AgreeOff.load_eq {m m' : Mem} {a n b k : Nat} (h : AgreeOff m m' a n)
    (hd : b + k ≤ a ∨ a + n ≤ b) : m'.load b k = m.load b k :=
  load_congr (fun x h1 h2 => h x (by omega))

theorem AgreeOff.refl (m : Mem) (a n : Nat) : AgreeOff m m a n := fun _ _ => rfl

theorem AgreeOff.trans {m₁ m₂ m₃ : Mem} {a n : Nat} (h₁ : AgreeOff m₁ m₂ a n)
    (h₂ : AgreeOff m₂ m₃ a n) : AgreeOff m₁ m₃ a n :=
  fun x hx => (h₂ x hx).trans (h₁ x hx)

/-- A change confined to a range is confined to any larger one. -/
theorem AgreeOff.mono {m m' : Mem} {a n b k : Nat} (h : AgreeOff m m' b k) (hlo : a ≤ b)
    (hhi : b + k ≤ a + n) : AgreeOff m m' a n :=
  fun x hx => h x (by omega)

end FwCore.Lib
