import Mathlib.Data.List.Basic

/-!
# Chains of linked cells

`next` says where each cell points. `Seg next p l q` holds when following the
links from `p` visits exactly the cells of `l` and arrives at `q`; a `Chain` is a
segment that arrives at the null pointer and visits no null cell on the way.

A chain is determined by where it starts, and a cell visited twice would start two
different chains; so a chain is free of duplicates without anybody having to
maintain that. Changing links is a matter of cutting a chain into segments with
`seg_append`, and of `Seg.congr`: a segment depends on the links of its own cells
only.
-/

namespace FwCore.Lib

variable {α : Type}

/-- Following the links from `p` visits `l` and arrives at `q`. -/
def Seg (next : α → α) : α → List α → α → Prop
  | p, [], q => p = q
  | p, a :: l, q => p = a ∧ Seg next (next a) l q

/-- A segment that ends in null, through cells that are not null. -/
structure Chain (next : α → α) (null p : α) (l : List α) : Prop where
  /-- The links lead through `l` to null. -/
  seg : Seg next p l null
  /-- No cell of the chain is null. -/
  nonnull : ∀ a ∈ l, a ≠ null

variable {next next' : α → α} {null : α}

theorem seg_append : ∀ {p q : α} {l₁ l₂ : List α},
    Seg next p (l₁ ++ l₂) q ↔ ∃ r, Seg next p l₁ r ∧ Seg next r l₂ q
  | p, q, [], l₂ => by simp [Seg]
  | p, q, a :: l₁, l₂ => by
      rw [List.cons_append, Seg, seg_append]
      constructor
      · intro ⟨hp, r, h1, h2⟩
        exact ⟨r, ⟨hp, h1⟩, h2⟩
      · intro ⟨r, ⟨hp, h1⟩, h2⟩
        exact ⟨hp, r, h1, h2⟩

/-- A segment depends on the links of its own cells only. -/
theorem Seg.congr : ∀ {p q : α} {l : List α}, Seg next p l q → (∀ a ∈ l, next' a = next a) →
    Seg next' p l q
  | _, _, [], h, _ => h
  | _, _, a :: l, ⟨hp, h⟩, ho => by
      refine ⟨hp, ?_⟩
      rw [ho a (by simp)]
      exact h.congr (fun b hb => ho b (by simp [hb]))

theorem Chain.congr {p : α} {l : List α} (h : Chain next null p l)
    (ho : ∀ a ∈ l, next' a = next a) : Chain next' null p l :=
  ⟨h.seg.congr ho, h.nonnull⟩

theorem chain_nil : Chain next null null [] := ⟨rfl, by simp⟩

theorem Chain.head_null {l : List α} (h : Chain next null null l) : l = [] := by
  cases l with
  | nil => rfl
  | cons a l => exact absurd h.seg.1.symm (h.nonnull a (by simp))

theorem Chain.eq_null {p : α} (h : Chain next null p []) : p = null := h.seg

theorem Chain.cons {a : α} {l : List α} (h : Chain next null (next a) l) (ha : a ≠ null) :
    Chain next null a (a :: l) where
  seg := ⟨rfl, h.seg⟩
  nonnull := by
    intro b hb
    rcases List.mem_cons.mp hb with rfl | hb
    · exact ha
    · exact h.nonnull b hb

/-- The first cell of a chain, and the chain after it. -/
theorem Chain.uncons {p a : α} {l : List α} (h : Chain next null p (a :: l)) :
    p = a ∧ a ≠ null ∧ Chain next null (next a) l :=
  ⟨h.seg.1, h.nonnull a (by simp), h.seg.2, fun b hb => h.nonnull b (by simp [hb])⟩

/-- The chain from a cell is determined. -/
theorem Chain.unique : ∀ {p : α} {l l' : List α}, Chain next null p l → Chain next null p l' →
    l = l'
  | p, [], l', h, h' => by
      have hp := h.eq_null
      rw [hp] at h'
      exact h'.head_null.symm
  | p, a :: l, [], h, h' => by
      have hp := h'.eq_null
      rw [hp] at h
      exact h.head_null
  | p, a :: l, b :: l', h, h' => by
      obtain ⟨hpa, _, ht⟩ := h.uncons
      obtain ⟨hpb, _, ht'⟩ := h'.uncons
      have hab : a = b := hpa.symm.trans hpb
      subst hab
      rw [ht.unique ht']

/-- The rest of a chain from any of its cells on. -/
theorem Chain.drop {p a : α} {l₁ l₂ : List α} (h : Chain next null p (l₁ ++ a :: l₂)) :
    Chain next null a (a :: l₂) := by
  obtain ⟨r, _, h2⟩ := seg_append.mp h.seg
  have hr : r = a := h2.1
  subst hr
  exact ⟨h2, fun b hb => h.nonnull b (by simp [List.mem_cons.mp hb])⟩

/-- **A chain is free of duplicates**: a cell met twice would start two chains. -/
theorem Chain.nodup : ∀ {p : α} {l : List α}, Chain next null p l → l.Nodup
  | _, [], _ => List.nodup_nil
  | p, a :: l, h => by
      obtain ⟨_, _, ht⟩ := h.uncons
      refine List.nodup_cons.mpr ⟨fun ha => ?_, ht.nodup⟩
      obtain ⟨l₁, l₂, he⟩ := List.append_of_mem ha
      -- the chain from `a` is both `a :: l` and the shorter `a :: l₂`
      have hlong : Chain next null a ([] ++ a :: l) := by
        have := h.seg.1
        subst this
        exact h
      have hshort : Chain next null a (a :: l₂) := by
        rw [he] at ht
        exact ht.drop
      have := congrArg List.length (hlong.unique hshort)
      rw [he] at this
      simp only [List.length_cons, List.length_append] at this
      omega

/-- Linking a new last cell behind the old one. -/
theorem Chain.snoc {p b n : α} {l : List α} (h : Chain next null p (l ++ [b])) (hn : n ≠ null)
    (hb : next' b = n) (hnn : next' n = null) (ho : ∀ a ∈ l, next' a = next a) :
    Chain next' null p (l ++ [b] ++ [n]) := by
  obtain ⟨r, h1, h2⟩ := seg_append.mp h.seg
  refine ⟨seg_append.mpr ⟨n, seg_append.mpr ⟨r, h1.congr ho, h2.1, hb⟩, rfl, hnn⟩, ?_⟩
  intro a ha
  rcases List.mem_append.mp ha with ha | ha
  · exact h.nonnull a ha
  · rw [List.mem_singleton.mp ha]; exact hn

/-- Linking a cell past its successor takes the successor out. -/
theorem Chain.unlink {p b c : α} {l₁ l₂ : List α} (h : Chain next null p (l₁ ++ b :: c :: l₂))
    (hb : next' b = next c) (ho : ∀ a ∈ l₁ ++ l₂, next' a = next a) :
    Chain next' null p (l₁ ++ b :: l₂) := by
  obtain ⟨r, h1, hr, _, h2⟩ := seg_append.mp h.seg
  refine ⟨seg_append.mpr ⟨r, h1.congr (fun a ha => ho a (by simp [ha])), hr, ?_⟩, ?_⟩
  · rw [hb]
    exact h2.congr (fun a ha => ho a (by simp [ha]))
  · intro a ha
    refine h.nonnull a ?_
    rcases List.mem_append.mp ha with ha | ha
    · simp [ha]
    · rcases List.mem_cons.mp ha with ha | ha
      · simp [ha]
      · simp [ha]

end FwCore.Lib
