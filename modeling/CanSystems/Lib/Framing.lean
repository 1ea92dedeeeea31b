import Mathlib.Data.List.Induction

/-!
# Streams cut into packets

A reader takes a stream one symbol at a time and keeps those of the packet in
progress. `verdict` is what it makes of them, `none` while more is to come;
`settle` is what a packet that is decided does to the state, and a state that
is not `live` takes nothing any more.

`feedAll` does not see where a stream was cut (`feedAll_append`), so two readers
that came to its end agree (`feedAll_eq_of_drained`).
-/

structure Framing (α ρ σ : Type*) where
  verdict : List α → Option ρ
  settle : σ → List α → ρ → σ
  live : σ → Bool

namespace Framing

structure Place (α σ : Type*) where
  pending : List α
  state : σ

variable {α ρ σ : Type*} (F : Framing α ρ σ)

def feed (p : Place α σ) (a : α) : Place α σ :=
  if F.live p.state then
    match F.verdict (p.pending ++ [a]) with
    | none => { p with pending := p.pending ++ [a] }
    | some r => ⟨[], F.settle p.state (p.pending ++ [a]) r⟩
  else p

def feedAll (p : Place α σ) (xs : List α) : Place α σ := xs.foldl F.feed p

/-- Nothing is decided before the last of `xs`. -/
def Waits (verdict : List α → Option ρ) (pending xs : List α) : Prop :=
  ∀ ys zs, xs = ys ++ zs → zs ≠ [] → verdict (pending ++ ys) = none

section
variable {verdict : List α → Option ρ} {pending : List α}

theorem waits_nil : Waits verdict pending [] := by
  intro ys zs h hzs
  exact absurd (List.append_eq_nil_iff.mp h.symm).2 hzs

theorem waits_singleton {a : α} (hv : verdict pending = none) : Waits verdict pending [a] := by
  intro ys zs h hzs
  rcases List.append_eq_singleton_iff.mp h.symm with ⟨hnil, -⟩ | ⟨-, hnil⟩
  · rw [hnil, List.append_nil]
    exact hv
  · exact absurd hnil hzs

theorem Waits.append {xs ys : List α} (hx : Waits verdict pending xs) (hy : Waits verdict (pending ++ xs) ys) :
    Waits verdict pending (xs ++ ys) := by
  intro us vs h hvs
  rcases List.append_eq_append_iff.mp h with ⟨mid, hus, hys⟩ | ⟨mid, hxs, hvs'⟩
  · -- The cut is behind `xs`.
    rw [hus, ← List.append_assoc]
    exact hy mid vs hys hvs
  · by_cases hmid : mid = []
    · rw [hmid, List.append_nil] at hxs
      rw [hmid, List.nil_append] at hvs'
      have hempty := hy [] ys rfl (hvs' ▸ hvs)
      rwa [List.append_nil, hxs] at hempty
    · exact hx us mid hxs hmid

theorem Waits.init {xs : List α} {a : α} (h : Waits verdict pending (xs ++ [a])) : Waits verdict pending xs := by
  intro ys zs hxs hzs
  exact h ys (zs ++ [a]) (by rw [hxs, List.append_assoc]) (List.append_ne_nil_of_left_ne_nil hzs [a])

theorem Waits.last {xs : List α} {a : α} (h : Waits verdict pending (xs ++ [a])) : verdict (pending ++ xs) = none :=
  h xs [a] rfl (List.cons_ne_nil a [])

end

variable {F} {p : Place α σ}

@[simp] theorem feedAll_nil : F.feedAll p [] = p := rfl

theorem feedAll_cons (a : α) (xs : List α) : F.feedAll p (a :: xs) = F.feedAll (F.feed p a) xs := rfl

theorem feedAll_append (xs ys : List α) : F.feedAll p (xs ++ ys) = F.feedAll (F.feedAll p xs) ys :=
    List.foldl_append

theorem feed_more {a : α} (hlive : F.live p.state = true) (hv : F.verdict (p.pending ++ [a]) = none) :
    F.feed p a = { p with pending := p.pending ++ [a] } := by
  rw [feed, if_pos hlive, hv]

theorem feed_whole {a : α} {r : ρ} (hlive : F.live p.state = true) (hv : F.verdict (p.pending ++ [a]) = some r) :
    F.feed p a = ⟨[], F.settle p.state (p.pending ++ [a]) r⟩ := by
  rw [feed, if_pos hlive, hv]

theorem feedAll_dead (hdead : F.live p.state = false) (xs : List α) : F.feedAll p xs = p := by
  induction xs with
  | nil => rfl
  | cons a xs ih => rw [feedAll_cons, feed, hdead, if_neg Bool.false_ne_true, ih]

theorem feedAll_more (hlive : F.live p.state = true) {xs : List α} (hw : Waits F.verdict p.pending xs)
    (hv : F.verdict (p.pending ++ xs) = none) : F.feedAll p xs = { p with pending := p.pending ++ xs } := by
  induction xs using List.reverseRecOn with
  | nil => simp
  | append_singleton xs a ih =>
    have hkept := ih hw.init hw.last
    rw [← List.append_assoc] at hv ⊢
    rw [feedAll_append, hkept]
    exact feed_more hlive hv

theorem feedAll_whole (hlive : F.live p.state = true) {xs : List α} {r : ρ} (hopen : F.verdict p.pending = none)
    (hw : Waits F.verdict p.pending xs) (hr : F.verdict (p.pending ++ xs) = some r) :
    F.feedAll p xs = ⟨[], F.settle p.state (p.pending ++ xs) r⟩ := by
  have hne : xs ≠ [] := by
    intro hnil
    rw [hnil, List.append_nil, hopen] at hr
    cases hr
  obtain ⟨ys, a, rfl⟩ : ∃ ys a, xs = ys ++ [a] := ⟨_, _, (List.dropLast_concat_getLast hne).symm⟩
  have hkept : F.feedAll p ys = { p with pending := p.pending ++ ys } := feedAll_more hlive hw.init hw.last
  rw [← List.append_assoc] at hr ⊢
  rw [feedAll_append, hkept]
  exact feed_whole hlive hr

/-- Two readers of one stream, each at its end or done with it, stand at the same place. -/
theorem feedAll_eq_of_drained {xs₁ xs₂ rest₁ rest₂ : List α} (hstream : xs₁ ++ rest₁ = xs₂ ++ rest₂)
    (h₁ : rest₁ = [] ∨ F.live (F.feedAll p xs₁).state = false)
    (h₂ : rest₂ = [] ∨ F.live (F.feedAll p xs₂).state = false) :
    F.feedAll p xs₁ = F.feedAll p xs₂ := by
  have hend : ∀ {xs rest : List α}, rest = [] ∨ F.live (F.feedAll p xs).state = false →
      F.feedAll p (xs ++ rest) = F.feedAll p xs := by
    intro xs rest h
    rw [feedAll_append]
    rcases h with hrest | hdead
    · rw [hrest, feedAll_nil]
    · exact feedAll_dead hdead rest
  rw [← hend h₁, ← hend h₂, hstream]

end Framing
