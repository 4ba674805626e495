import Mathlib.Logic.Basic

/-!
# Histories

A history is a list of events, oldest first. `Since p c` and `Preceded p q` are the
past operators that protocols are stated with. `Alternates p q` says that there are no
two `p` without a `q` between them. `Rounds r tail` says that a history goes round a
fixed cycle `r` and is stopped at `tail`; `RoundsOf` is the same where each round may be
one of several.
-/

namespace FwCore.Lib

section

variable {α : Type} {p q c : α → Prop} {l l' : List α}

/-! ## One event before another -/

/-- Every `p` in the history has a `q` before it. -/
def Preceded (p q : α → Prop) (l : List α) : Prop :=
  ∀ a x b, l = a ++ x :: b → p x → ∃ y ∈ a, q y

theorem preceded_of_none (h : ∀ x ∈ l, ¬ p x) : Preceded p q l := by
  intro a x b hl hp
  exact absurd hp (h x (by rw [hl]; simp))

/-- A `q` that comes first precedes everything. -/
theorem preceded_cons {y : α} (hy : q y) (hp : ¬ p y) : Preceded p q (y :: l) := by
  intro a x b hl hx
  cases a with
  | nil =>
      obtain ⟨rfl, _⟩ : y = x ∧ l = b := by simpa using hl
      exact absurd hx hp
  | cons z a =>
      obtain ⟨rfl, _⟩ : y = z ∧ l = a ++ x :: b := by simpa using hl
      exact ⟨y, List.mem_cons_self, hy⟩

theorem Preceded.append (h : Preceded p q l) (h' : Preceded p q l') : Preceded p q (l ++ l') := by
  intro a x b hl hx
  rcases List.append_eq_append_iff.mp hl with ⟨m, ha, hm⟩ | ⟨m, hm, hb⟩
  · -- the `p` is in the second part
    obtain ⟨y, hy, hq⟩ := h' m x b hm hx
    exact ⟨y, by rw [ha]; exact List.mem_append_right l hy, hq⟩
  · rcases m with _ | ⟨z, m⟩
    · -- the `p` opens the second part
      obtain ⟨y, hy, _⟩ := h' [] x b (by simpa using hb.symm) hx
      exact absurd hy (by simp)
    · obtain ⟨rfl, _⟩ : x = z ∧ b = m ++ l' := by simpa using hb
      exact h a x m hm hx

/-! ## What has happened since -/

/-- A `p` has happened, and no `c` after it. -/
def Since (p c : α → Prop) (l : List α) : Prop := ∃ a x b, l = a ++ x :: b ∧ p x ∧ ∀ y ∈ b, ¬ c y

theorem Since.exists (h : Since p c l) : ∃ x ∈ l, p x := by
  obtain ⟨a, x, b, hl, hp, _⟩ := h
  exact ⟨x, by rw [hl]; simp, hp⟩

theorem since_snoc (e : α) : Since p c (l ++ [e]) ↔ p e ∨ (¬ c e ∧ Since p c l) := by
  constructor
  · intro ⟨a, x, b, hl, hp, hb⟩
    rcases List.eq_nil_or_concat b with rfl | ⟨b, z, rfl⟩
    · obtain ⟨_, rfl⟩ := List.append_inj' hl rfl |>.imp_right (fun h => List.cons.inj h |>.1)
      exact Or.inl hp
    · rw [List.concat_eq_append, ← List.cons_append, ← List.append_assoc] at hl
      obtain ⟨hl, hz⟩ := List.append_inj' hl rfl
      rw [List.concat_eq_append] at hb
      rw [List.cons.inj hz |>.1]
      exact Or.inr ⟨hb z (by simp), a, x, b, hl, hp, fun y hy => hb y (by simp [hy])⟩
  · intro h
    rcases h with hp | ⟨hc, a, x, b, hl, hp, hb⟩
    · exact ⟨l, e, [], rfl, hp, fun y hy => absurd hy (by simp)⟩
    · refine ⟨a, x, b ++ [e], by rw [hl]; simp, hp, fun y hy => ?_⟩
      rcases List.mem_append.mp hy with hy | hy
      · exact hb y hy
      · rw [List.mem_singleton.mp hy]
        exact hc

/-- Events that are neither `p` nor `c` change nothing. -/
theorem since_append_silent (h : ∀ e ∈ l', ¬ p e ∧ ¬ c e) : Since p c (l ++ l') ↔ Since p c l := by
  induction l' generalizing l with
  | nil => rw [List.append_nil]
  | cons e l' ih =>
      obtain ⟨hp, hc⟩ := h e List.mem_cons_self
      have htail := ih (l := l ++ [e]) (fun x hx => h x (List.mem_cons_of_mem e hx))
      rw [List.append_assoc, List.singleton_append] at htail
      rw [htail, since_snoc]
      exact ⟨fun hs => (hs.resolve_left hp).2, fun hs => Or.inr ⟨hc, hs⟩⟩

/-- Events of which none is `p`: what has happened stands if none of them is `c`. -/
theorem since_append_quiet (h : ∀ e ∈ l', ¬ p e) :
    Since p c (l ++ l') ↔ Since p c l ∧ ∀ e ∈ l', ¬ c e := by
  induction l' generalizing l with
  | nil => simp
  | cons e l' ih =>
      have hp := h e List.mem_cons_self
      have htail := ih (l := l ++ [e]) (fun x hx => h x (List.mem_cons_of_mem e hx))
      rw [List.append_assoc, List.singleton_append] at htail
      rw [htail, since_snoc, List.forall_mem_cons]
      constructor
      · intro ⟨hs, hl⟩
        obtain ⟨hc, hs⟩ := hs.resolve_left hp
        exact ⟨hs, hc, hl⟩
      · intro ⟨hs, hc, hl⟩
        exact ⟨Or.inr ⟨hc, hs⟩, hl⟩

/-! ## Taking turns -/

/-- Every `p` comes when there was none since the last `q`. -/
def Alternates (p q : α → Prop) (l : List α) : Prop :=
  ∀ a x b, l = a ++ x :: b → p x → ¬ Since p q a

theorem alternates_snoc (e : α) :
    Alternates p q (l ++ [e]) ↔ Alternates p q l ∧ (p e → ¬ Since p q l) := by
  constructor
  · intro h
    refine ⟨fun a x b hl hp => ?_, fun hp => h l e [] rfl hp⟩
    exact h a x (b ++ [e]) (by rw [hl, List.append_assoc, List.cons_append]) hp
  · intro ⟨h, he⟩ a x b hl hp
    rcases List.eq_nil_or_concat b with rfl | ⟨b, z, rfl⟩
    · obtain ⟨rfl, hx⟩ := List.append_inj' hl rfl
      rw [List.cons.inj hx |>.1] at he
      exact he hp
    · rw [List.concat_eq_append, ← List.cons_append, ← List.append_assoc] at hl
      exact h a x b (List.append_inj' hl rfl).1 hp

theorem alternates_nil : Alternates p q [] := by
  intro a x b hl
  simp at hl

/-- Events of which none is `p` break no turn. -/
theorem Alternates.append_quiet (h : Alternates p q l) (hp : ∀ e ∈ l', ¬ p e) :
    Alternates p q (l ++ l') := by
  induction l' generalizing l with
  | nil => rwa [List.append_nil]
  | cons e l' ih =>
      have hfirst : Alternates p q (l ++ [e]) :=
        (alternates_snoc e).mpr ⟨h, fun he => absurd he (hp e List.mem_cons_self)⟩
      have htail := ih hfirst (fun x hx => hp x (List.mem_cons_of_mem e hx))
      rwa [List.append_assoc, List.singleton_append] at htail

/-! ## Round and round -/

/-- Some number of whole rounds, and then `tail`. -/
def Rounds (r tail l : List α) : Prop := ∃ k, l = (List.replicate k r).flatten ++ tail

theorem rounds_nil (r : List α) : Rounds r [] [] := ⟨0, rfl⟩

/-- Go on from the end of a round. -/
theorem Rounds.start {r : List α} (h : Rounds r [] l) (tail : List α) :
    Rounds r tail (l ++ tail) := by
  obtain ⟨k, hk⟩ := h
  rw [List.append_nil] at hk
  exact ⟨k, by rw [hk]⟩

/-- Go on to the end of the round. -/
theorem Rounds.finish {r tail rest : List α} (h : Rounds r tail l) (hr : r = tail ++ rest) :
    Rounds r [] (l ++ rest) := by
  obtain ⟨k, hk⟩ := h
  refine ⟨k + 1, ?_⟩
  rw [List.replicate_succ', List.flatten_append, hk, List.append_nil, List.append_assoc, ← hr]
  simp

/-- Whole rounds, each of some kind `k` and reading `r k`, and then `tail`. -/
def RoundsOf {κ : Type} (r : κ → List α) (ks : List κ) (tail l : List α) : Prop :=
  l = ks.flatMap r ++ tail

theorem RoundsOf.finish {κ : Type} {r : κ → List α} {ks : List κ} {tail rest : List α} {k : κ}
    (h : RoundsOf r ks tail l) (hr : r k = tail ++ rest) :
    RoundsOf r (ks ++ [k]) [] (l ++ rest) := by
  unfold RoundsOf at h ⊢
  rw [h, List.flatMap_append, List.flatMap_singleton, hr, List.append_nil, List.append_assoc]

/-- A history that stops inside a round is a prefix of one that does not. -/
theorem RoundsOf.prefix {κ : Type} {r : κ → List α} {ks : List κ} {tail rest : List α} {k : κ}
    (h : RoundsOf r ks tail l) (hr : r k = tail ++ rest) : l <+: (ks ++ [k]).flatMap r := by
  refine ⟨rest, ?_⟩
  have hfull := h.finish hr
  rw [RoundsOf, List.append_nil] at hfull
  exact hfull

theorem rounds_countP (f : α → Bool) (k : Nat) (r : List α) :
    (List.replicate k r).flatten.countP f = k * r.countP f := by
  induction k with
  | zero => simp
  | succ k ih =>
      rw [List.replicate_succ, List.flatten_cons, List.countP_append, ih, Nat.succ_mul,
        Nat.add_comm]

end

end FwCore.Lib
