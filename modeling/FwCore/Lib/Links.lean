import FwCore.Lib.Mem
import FwCore.Lib.Chain

/-!
# Links in memory

A program keeps the links of its lists in the cells themselves, each a pointer of
`ps` bytes at the cell's address. `NodeSpace` is the separation such code relies on
without ever mentioning it: the cells are distinct objects, so their links do not
overlap, and writing one link leaves every other alone.
-/

namespace FwCore.Lib

/-- The places of a program's nodes, for pointers of `ps` bytes. -/
structure NodeSpace (ps : Nat) where
  isNode : Nat → Prop
  /-- No node is at address zero. -/
  nonnull : ∀ a, isNode a → a ≠ 0
  /-- A node's address fits a pointer. -/
  fits : ∀ a, isNode a → a < 256 ^ ps
  /-- Two nodes do not overlap. -/
  apart : ∀ a b, isNode a → isNode b → a ≠ b → a + ps ≤ b ∨ b + ps ≤ a

variable {ps : Nat} (sp : NodeSpace ps) {m m' : Mem} {p a b : Nat} {l : List Nat}

/-- Writing one link leaves the link of another node alone. -/
theorem NodeSpace.load_store (ha : sp.isNode a) (hb : sp.isNode b) (hne : b ≠ a) (v : Nat) :
    (m.store a ps v).load b ps = m.load b ps :=
  (store_agreeOff m a ps v).load_eq (sp.apart b a hb ha hne)

/-- The start of a chain fits a pointer. -/
theorem NodeSpace.first_fits (h : Chain (fun x => m.load x ps) 0 p l)
    (hl : ∀ a ∈ l, sp.isNode a) : p < 256 ^ ps := by
  cases l with
  | nil =>
      rw [h.eq_null]
      exact Nat.pow_pos (by decide)
  | cons a l =>
      rw [h.uncons.1]
      exact sp.fits a (hl a (by simp))

/-- A chain is still there as long as the bytes of its own links are. -/
theorem chain_frame (h : Chain (fun x => m.load x ps) 0 p l)
    (hm : ∀ a ∈ l, ∀ x, a ≤ x → x < a + ps → m' x = m x) : Chain (fun x => m'.load x ps) 0 p l :=
  h.congr (fun a ha => load_congr (hm a ha))

/-- Linking a node in front of a chain. -/
theorem NodeSpace.chain_push (h : Chain (fun x => m.load x ps) 0 p l)
    (hl : ∀ a ∈ l, sp.isNode a) (ha : sp.isNode a) (hal : a ∉ l) :
    Chain (fun x => (m.store a ps p).load x ps) 0 a (a :: l) := by
  refine Chain.cons ?_ (sp.nonnull a ha)
  have hself : (m.store a ps p).load a ps = p := load_store_self m (sp.first_fits h hl)
  show Chain _ 0 ((m.store a ps p).load a ps) l
  rw [hself]
  exact h.congr (fun b hb => sp.load_store ha (hl b hb) (fun he => hal (he ▸ hb)) p)

end FwCore.Lib
