import FwCore.Lib.Simulation

/-!
# A part of a system that keeps to itself

A part of a system is born at some step, may go at some step, and in between is given
some of the inputs. It keeps to itself when the inputs it is given do to it what they
would do if there were nothing else, and the others nothing. Then where it has got to,
and every answer it has given, is a matter of its birth and its own inputs
(`Component.life`): the rest of the system need not be looked at.
-/

namespace FwCore.Lib

variable {τ ι ο κ : Type}

/-- Take the inputs one after the other, by oneself. -/
def runOwn (own : κ → ι → κ × ο) : κ → List ι → κ × List ο
  | c, [] => (c, [])
  | c, i :: is =>
    let r := own c i
    let rest := runOwn own r.1 is
    (rest.1, r.2 :: rest.2)

/-- The answers to those of the inputs that are for the part. -/
def answersTo (mine : ι → Prop) [DecidablePred mine] (is : List ι) (os : List ο) : List ο :=
  ((is.zip os).filter fun p => mine p.1).map Prod.snd

/-- A part of the system, which is in state `c` when `Rep a c`, and its life. -/
structure Component (spec : τ → ι → ο → τ → Prop) (Rep : τ → κ → Prop) (mine ends : ι → Prop)
    (born : ι → ο → κ → Prop) (own : κ → ι → κ × ο) : Prop where
  /-- It comes to be in a state it may be born in. -/
  birth : ∀ {a b i o c}, spec a i o b → (∀ c, ¬ Rep a c) → Rep b c → born i o c
  /-- An input it is given does to it what it would do anyway. -/
  given : ∀ {a b i o c}, spec a i o b → Rep a c → mine i → ¬ ends i →
    Rep b (own c i).1 ∧ o = (own c i).2
  /-- Other inputs do not touch it. -/
  kept : ∀ {a b i o c}, spec a i o b → Rep a c → ¬ mine i → Rep b c
  /-- It goes when it is told to. -/
  death : ∀ {a b i o c}, spec a i o b → ends i → ¬ Rep b c

section

variable {spec : τ → ι → ο → τ → Prop} {Rep : τ → κ → Prop} {mine ends : ι → Prop}
  {born : ι → ο → κ → Prop} {own : κ → ι → κ × ο}

theorem runOwn_snoc (c : κ) (is : List ι) (i : ι) :
    runOwn own c (is ++ [i]) = ((own (runOwn own c is).1 i).1,
      (runOwn own c is).2 ++ [(own (runOwn own c is).1 i).2]) := by
  induction is generalizing c with
  | nil => rfl
  | cons j is ih =>
      rw [List.cons_append, runOwn, runOwn]
      simp only [ih, List.cons_append]

/-- What no input changes is the same in the end. -/
theorem runOwn_keeps {α : Type} {f : κ → α} (h : ∀ c i, f (own c i).1 = f c) (c : κ)
    (is : List ι) : f (runOwn own c is).1 = f c := by
  induction is generalizing c with
  | nil => rfl
  | cons i is ih => exact (ih (own c i).1).trans (h c i)

variable [DecidablePred mine]

theorem answersTo_snoc {is : List ι} {os : List ο} (hlen : is.length = os.length) (i : ι) (o : ο) :
    answersTo mine (is ++ [i]) (os ++ [o])
      = answersTo mine is os ++ (if mine i then [o] else []) := by
  rw [answersTo, List.zip_append hlen, List.filter_append, List.map_append]
  congr 1
  by_cases hi : mine i
  · simp [hi]
  · simp [hi]

/-- From anywhere on, while it is there, a part does as it does by itself. -/
theorem Component.run (hC : Component spec Rep mine ends born own) {a b : τ} {is : List ι}
    {os : List ο} (h : Traces spec a is os b) {c : κ} (hc : Rep a c) (hends : ∀ i ∈ is, ¬ ends i) :
    Rep b (runOwn own c (is.filter mine)).1
      ∧ answersTo mine is os = (runOwn own c (is.filter mine)).2 := by
  induction h generalizing c with
  | nil a => exact ⟨hc, rfl⟩
  | @cons a b d i is o os hstep _ ih =>
      have hends' : ∀ j ∈ is, ¬ ends j := fun j hj => hends j (List.mem_cons_of_mem i hj)
      by_cases hi : mine i
      · obtain ⟨hb, ho⟩ := hC.given hstep hc hi (hends i List.mem_cons_self)
        obtain ⟨hd, hans⟩ := ih hb hends'
        simp only [answersTo, List.zip_cons_cons, List.filter_cons, hi, decide_true, if_true,
          List.map_cons, runOwn] at hans ⊢
        exact ⟨hd, by rw [ho, hans]⟩
      · obtain ⟨hd, hans⟩ := ih (hC.kept hstep hc hi) hends'
        simp only [answersTo, List.zip_cons_cons, List.filter_cons, hi, decide_false,
          Bool.false_eq_true, if_false] at hans ⊢
        exact ⟨hd, hans⟩

/-- What is known of a part once it is there. -/
def Lived (mine ends : ι → Prop) [DecidablePred mine] (born : ι → ο → κ → Prop)
    (own : κ → ι → κ × ο) (is : List ι) (os : List ο) (c : κ) : Prop :=
  ∃ before i after os₁ o os₂ new, is = before ++ i :: after ∧ os = os₁ ++ o :: os₂
    ∧ before.length = os₁.length ∧ after.length = os₂.length
    ∧ born i o new ∧ (∀ j ∈ after, ¬ ends j)
    ∧ runOwn own new (after.filter mine) = (c, answersTo mine after os₂)

/-- One more step in the life of a part. -/
theorem Component.step (hC : Component spec Rep mine ends born own) {a b : τ} {is : List ι}
    {os : List ο} {i : ι} {o : ο} (hlen : is.length = os.length)
    (h : ∀ c, Rep a c → ∃ c', Rep a c' ∧ Lived mine ends born own is os c')
    (hs : spec a i o b) {c : κ} (hc : Rep b c) :
    ∃ c', Rep b c' ∧ Lived mine ends born own (is ++ [i]) (os ++ [o]) c' := by
  by_cases ha : ∃ c, Rep a c
  · obtain ⟨c₀, hc₀⟩ := ha
    obtain ⟨c', hc', before, j, after, os₁, p, os₂, new, rfl, rfl, hl₁, hl₂, hborn, hends, hrun⟩ :=
      h c₀ hc₀
    have hne : ¬ ends i := fun he => hC.death hs he hc
    have hends' : ∀ k ∈ after ++ [i], ¬ ends k := by
      intro k hk
      rcases List.mem_append.mp hk with hk | hk
      · exact hends k hk
      · rw [List.mem_singleton.mp hk]
        exact hne
    by_cases hi : mine i
    · obtain ⟨hb, ho⟩ := hC.given hs hc' hi hne
      refine ⟨(own c' i).1, hb, before, j, after ++ [i], os₁, p, os₂ ++ [o], new, by simp, by simp,
        hl₁, by simp [hl₂], hborn, hends', ?_⟩
      rw [List.filter_append, answersTo_snoc hl₂, if_pos hi]
      simp only [List.filter_cons, hi, decide_true, if_true, List.filter_nil]
      rw [runOwn_snoc, hrun, ho]
    · refine ⟨c', hC.kept hs hc' hi, before, j, after ++ [i], os₁, p, os₂ ++ [o], new, by simp,
        by simp, hl₁, by simp [hl₂], hborn, hends', ?_⟩
      rw [List.filter_append, answersTo_snoc hl₂, if_neg hi]
      simpa [List.filter_cons, hi] using hrun
  · have hnone : ∀ c, ¬ Rep a c := fun c hc => ha ⟨c, hc⟩
    exact ⟨c, hc, is, i, [], os, o, [], c, rfl, rfl, hlen, rfl, hC.birth hs hnone hc, by simp, rfl⟩

/-- **The life of a part.** It was born somewhere in the run, and has since done by itself. -/
theorem Component.life (hC : Component spec Rep mine ends born own) {a b : τ} {is : List ι}
    {os : List ο} (ha : ∀ c, ¬ Rep a c) (h : Traces spec a is os b) {c : κ} (hc : Rep b c) :
    ∃ c', Rep b c' ∧ Lived mine ends born own is os c' := by
  have hall : ∀ c, Rep b c → ∃ c', Rep b c' ∧ Lived mine ends born own is os c' := by
    refine h.history (P := fun is os b => ∀ c, Rep b c →
      ∃ c', Rep b c' ∧ Lived mine ends born own is os c') (fun c hc => absurd hc (ha c)) ?_
    intro is os b i o c hlen hb hs c' hc'
    exact hC.step hlen hb hs hc'
  exact hall c hc

end

end FwCore.Lib
