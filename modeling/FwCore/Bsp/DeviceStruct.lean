import FwCore.Bsp.Registry
import FwCore.Core.TimerStruct

/-!
# The device structs, whole

A button holds two timers besides its fields. `ButtonTimers` is what the target
decides about them, and `deviceLayout` the layout of each kind's struct with all its
members: the fields of `Registry.fields`, and for a button the members of the timers.
-/

namespace FwCore

open Lib

/-- The timers of `struct button_t`: `debounce_timer` and `hold_timer`. -/
inductive ButtonTimer where
  | debounce
  | hold
deriving DecidableEq, Repr

/-- Where a target puts the timers of a button; and an `enum` is at least a byte. -/
structure ButtonTimers (t : Target) where
  timer : TimerLayout
  offset : ButtonTimer → Nat
  inside : ∀ k, offset k + timer.size ≤ t.sizeOf .button
  apart : offset .debounce + timer.size ≤ offset .hold
    ∨ offset .hold + timer.size ≤ offset .debounce
  apart_field : ∀ k, ∀ f ∈ Registry.button.fields,
    offset k + timer.size ≤ t.offset .button f
      ∨ t.offset .button f + t.width .button f ≤ offset k
  enum_pos : 0 < t.enumSize

/-- A member of a device struct. -/
inductive Member where
  | field (f : Field)
  | timer (k : ButtonTimer) (f : TimerMember)
deriving DecidableEq, Repr

/-- The members of the timers of a kind. -/
def Registry.timerMembers : Registry → List Member
  | .button => FwCore.timerMembers.map (.timer .debounce) ++ FwCore.timerMembers.map (.timer .hold)
  | _ => []

/-- All members of a kind's struct. -/
def Registry.members (r : Registry) : List Member := r.fields.map .field ++ r.timerMembers

section

variable {t : Target} (d : ButtonTimers t)

/-- Where a member is. -/
def memberOffset (r : Registry) : Member → Nat
  | .field f => t.offset r f
  | .timer k f => d.offset k + d.timer.offset f

/-- How wide it is. -/
def memberWidth (r : Registry) : Member → Nat
  | .field f => t.width r f
  | .timer _ f => f.width

theorem mem_members {r : Registry} {i : Member} : i ∈ r.members ↔
    (∃ f ∈ r.fields, i = .field f) ∨ (r = .button ∧ ∃ k f, i = .timer k f) := by
  rw [Registry.members, List.mem_append]
  refine or_congr ?_ ?_
  · rw [List.mem_map]
    exact ⟨fun ⟨f, hf, hi⟩ => ⟨f, hf, hi.symm⟩, fun ⟨f, hf, hi⟩ => ⟨f, hf, hi.symm⟩⟩
  · constructor
    · intro hi
      cases r with
      | button =>
          rcases List.mem_append.mp hi with hi | hi
          · obtain ⟨f, _, rfl⟩ := List.mem_map.mp hi
            exact ⟨rfl, _, f, rfl⟩
          · obtain ⟨f, _, rfl⟩ := List.mem_map.mp hi
            exact ⟨rfl, _, f, rfl⟩
      | _ => exact absurd hi List.not_mem_nil
    · rintro ⟨rfl, k, f, rfl⟩
      cases k <;> cases f <;> decide

/-- A timer's member is inside the timer. -/
theorem timerMember_inside (f : TimerMember) : d.timer.offset f + f.width ≤ d.timer.size := by
  rw [← d.timer.width_eq]
  exact d.timer.inside f (d.timer.mem f)

/-- Two timer members do not overlap. -/
theorem timerMembers_apart {k k' : ButtonTimer} {f f' : TimerMember}
    (hne : Member.timer k f ≠ .timer k' f') :
    d.offset k + d.timer.offset f + f.width ≤ d.offset k' + d.timer.offset f'
      ∨ d.offset k' + d.timer.offset f' + f'.width ≤ d.offset k + d.timer.offset f := by
  have hin := timerMember_inside d f
  have hin' := timerMember_inside d f'
  by_cases hk : k = k'
  · -- in one timer
    subst hk
    have hap := d.timer.apart f (d.timer.mem f) f' (d.timer.mem f') (fun hf => hne (hf ▸ rfl))
    rw [d.timer.width_eq, d.timer.width_eq] at hap
    omega
  · -- in both
    have hap := d.apart
    cases k <;> cases k' <;> first | omega | exact absurd rfl hk

/-- The layout of a kind's struct. -/
def deviceLayout (r : Registry) : Layout Member where
  size := t.sizeOf r
  members := r.members
  offset := memberOffset d r
  width := memberWidth (t := t) r
  inside := by
    intro i hi
    rcases mem_members.mp hi with ⟨f, hf, rfl⟩ | ⟨rfl, k, f, rfl⟩
    · exact t.inside r f hf
    · have hin := timerMember_inside d f
      have hsize := d.inside k
      show d.offset k + d.timer.offset f + f.width ≤ _
      omega
  apart := by
    intro i hi j hj hne
    rcases mem_members.mp hi with ⟨f, hf, rfl⟩ | ⟨rfl, k, f, rfl⟩
    · rcases mem_members.mp hj with ⟨g, hg, rfl⟩ | ⟨rfl, k, g, rfl⟩
      · exact t.apart r f hf g hg (fun hfg => hne (hfg ▸ rfl))
      · -- a field and a timer
        have hap := d.apart_field k f hf
        have hin := timerMember_inside d g
        show t.offset .button f + t.width .button f ≤ d.offset k + d.timer.offset g
          ∨ d.offset k + d.timer.offset g + g.width ≤ t.offset .button f
        omega
    · rcases mem_members.mp hj with ⟨g, hg, rfl⟩ | ⟨_, k', g, rfl⟩
      · have hap := d.apart_field k g hg
        have hin := timerMember_inside d f
        show d.offset k + d.timer.offset f + f.width ≤ t.offset .button g
          ∨ t.offset .button g + t.width .button g ≤ d.offset k + d.timer.offset f
        omega
      · exact timerMembers_apart d hne

/-- `getField` is a member. -/
theorem get_field (r : Registry) (m : Mem) (dev : Nat) (f : Field) :
    (deviceLayout d r).get m dev (.field f) = getField t r m dev f := rfl

theorem set_field (r : Registry) (m : Mem) (dev : Nat) (f : Field) (v : Nat) :
    (deviceLayout d r).set m dev (.field f) v = setField t r m dev f v := rfl

theorem get_timer (m : Mem) (btn : Nat) (k : ButtonTimer) (f : TimerMember) :
    (deviceLayout d .button).get m btn (.timer k f) = d.timer.get m (btn + d.offset k) f := by
  show m.load (btn + (d.offset k + d.timer.offset f)) f.width = _
  rw [← Nat.add_assoc, ← d.timer.width_eq]
  rfl

/-- The struct has room in its block. -/
theorem deviceLayout_fits (r : Registry) : (deviceLayout d r).size ≤ r.pool.blockSize.toNat :=
  t.fits_block r

end

end FwCore
