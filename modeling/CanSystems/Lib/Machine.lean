import Mathlib.Data.List.Basic

/-!
# Machines driven by a list of events

A machine is a total step function on states; a run is a list of events. A
condition `G` on the state before a step and its event is met by a run when it
is met at every step. `run_inv` turns what one step preserves into what a whole
run preserves, and `meets_of_not` goes the other way, from the end of a run to
its steps; `throughout_iff` is about every state a run comes through. A round is a list of events with one of
each kind in it; by
`run_rounds`, a machine that some kind of event always brings closer to its end
is there after as many rounds as it is steps away.
-/

namespace Machine

section
variable {σ ε : Type*} (step : σ → ε → σ)

def run (s : σ) (es : List ε) : σ := es.foldl step s

@[simp] theorem run_nil (s : σ) : run step s [] = s := rfl

@[simp] theorem run_cons (s : σ) (e : ε) (es : List ε) :
    run step s (e :: es) = run step (step s e) es := rfl

theorem run_append (s : σ) (es fs : List ε) :
    run step s (es ++ fs) = run step (run step s es) fs := List.foldl_append

/-- Every step of the run meets `G`. -/
def Meets (G : σ → ε → Prop) : σ → List ε → Prop
  | _, [] => True
  | s, e :: es => G s e ∧ Meets G (step s e) es

instance decidableMeets (G : σ → ε → Prop) [∀ s e, Decidable (G s e)] :
    ∀ s es, Decidable (Meets step G s es)
  | _, [] => isTrue trivial
  | s, e :: es =>
    have := decidableMeets G (step s e) es
    inferInstanceAs (Decidable (G s e ∧ Meets step G (step s e) es))

variable {step} {G : σ → ε → Prop} {I : σ → Prop}

theorem Meets.append {s : σ} {es fs : List ε} :
    Meets step G s (es ++ fs) ↔ Meets step G s es ∧ Meets step G (run step s es) fs := by
  induction es generalizing s with
  | nil => simp [Meets]
  | cons e es ih => simp only [List.cons_append, Meets, run_cons, ih, and_assoc]

/-- What one step preserves under `G`, a run that meets `G` preserves. -/
theorem run_inv (hstep : ∀ s e, I s → G s e → I (step s e)) {s : σ} {es : List ε} (hI : I s)
    (hG : Meets step G s es) : I (run step s es) := by
  induction es generalizing s with
  | nil => exact hI
  | cons e es ih => exact ih (hstep s e hI hG.1) hG.2

theorem run_inv_all (hstep : ∀ s e, I s → I (step s e)) {s : σ} (es : List ε) (hI : I s) :
    I (run step s es) := by
  induction es generalizing s with
  | nil => exact hI
  | cons e es ih => exact ih (hstep s e hI)

theorem meets_and {G' : σ → ε → Prop} {s : σ} {es : List ε} :
    Meets step (fun s e => G s e ∧ G' s e) s es ↔ Meets step G s es ∧ Meets step G' s es := by
  induction es generalizing s with
  | nil => simp [Meets]
  | cons e es ih => simp only [Meets, ih, and_and_and_comm]

/-- A condition that an invariant gives for the next step is met by every run from there. -/
theorem meets_of_inv (hstep : ∀ s e, I s → I (step s e)) (hG : ∀ s e, I s → G s e) {s : σ} (es : List ε)
    (hI : I s) :
    Meets step G s es := by
  induction es generalizing s with
  | nil => trivial
  | cons e es ih => exact ⟨hG s e hI, ih (hstep s e hI)⟩

/-- Where an invariant makes two conditions the same, a run meets both or neither. -/
theorem meets_congr {G' : σ → ε → Prop} (hstep : ∀ s e, I s → G s e → I (step s e))
    (hiff : ∀ s e, I s → (G s e ↔ G' s e))
    {s : σ} (es : List ε) (hI : I s) : Meets step G s es ↔ Meets step G' s es := by
  induction es generalizing s with
  | nil => exact Iff.rfl
  | cons e es ih =>
    constructor
    · rintro ⟨hG, hes⟩
      exact ⟨(hiff s e hI).mp hG, (ih (hstep s e hI hG)).mp hes⟩
    · rintro ⟨hG', hes⟩
      have hG := (hiff s e hI).mpr hG'
      exact ⟨hG, (ih (hstep s e hI hG)).mpr hes⟩

/-- Where a step outside `G` leaves something that no step repairs, a run that ends without it met `G`. -/
theorem meets_of_not {B : σ → Prop} (hI : ∀ s e, I s → I (step s e)) (hbreak : ∀ s e, I s → ¬ G s e → B (step s e))
    (hkeep : ∀ s e, I s → B s → B (step s e)) {s : σ} {es : List ε} (hs : I s) (hend : ¬ B (run step s es)) :
    Meets step G s es := by
  have hstays : ∀ (es : List ε) (s : σ), I s → B s → B (run step s es) := by
    intro es
    induction es with
    | nil => exact fun s _ hB => hB
    | cons e es ih => exact fun s hs hB => ih _ (hI s e hs) (hkeep s e hs hB)
  induction es generalizing s with
  | nil => trivial
  | cons e es ih =>
    refine ⟨?_, ih (hI s e hs) hend⟩
    by_contra hG
    exact hend (hstays es _ (hI s e hs) (hbreak s e hs hG))

/-- Where a step keeps `P` exactly when it meets `G`, `P` holds all through a run exactly when the run meets `G`. -/
theorem throughout_iff {P : σ → Prop} (hI : ∀ s e, I s → I (step s e))
    (hiff : ∀ s e, I s → P s → (P (step s e) ↔ G s e))
    {s : σ} (es : List ε) (hs : I s) (hP : P s) : (∀ fs, fs <+: es → P (run step s fs)) ↔ Meets step G s es := by
  induction es generalizing s with
  | nil =>
    refine ⟨fun _ => trivial, ?_⟩
    intro _ fs hfs
    obtain rfl := List.prefix_nil.mp hfs
    exact hP
  | cons e es ih =>
    constructor
    · intro hall
      have hG := (hiff s e hs hP).mp (hall [e] ⟨es, rfl⟩)
      refine ⟨hG, (ih (hI s e hs) ((hiff s e hs hP).mpr hG)).mp ?_⟩
      intro fs hfs
      exact hall (e :: fs) (List.cons_prefix_cons.mpr ⟨rfl, hfs⟩)
    · rintro ⟨hG, hmeets⟩ fs hfs
      cases fs with
      | nil => exact hP
      | cons f fs =>
        obtain ⟨rfl, hrest⟩ := List.cons_prefix_cons.mp hfs
        exact (ih (hI s f hs) ((hiff s f hs hP).mpr hG)).mpr hmeets fs hrest

end

/-! ## Rounds -/

section
variable {σ ε κ : Type*} {step : σ → ε → σ} {G : σ → ε → Prop} {kind : ε → κ → Prop} {At : σ → ℕ → κ → Prop}

/-- An event of every kind, in any order and with any others between them. -/
def Round (kind : ε → κ → Prop) (es : List ε) : Prop := ∀ k, ∃ e ∈ es, kind e k

/-- `At s m k`: the state is at most `m` steps away from the end, and an event of kind `k` brings it closer. Any
other event brings it closer or leaves it there. -/
def Approaches (step : σ → ε → σ) (G : σ → ε → Prop) (kind : ε → κ → Prop) (At : σ → ℕ → κ → Prop) : Prop :=
  ∀ s e m k, At s m k → G s e → (∃ m' < m, ∃ k', At (step s e) m' k') ∨ ((m = 0 ∨ ¬ kind e k) ∧ At (step s e) m k)

theorem Approaches.run_le (h : Approaches step G kind At) {s : σ} {m : ℕ} {k : κ} {es : List ε} (hs : At s m k)
    (hG : Meets step G s es) : ∃ m' ≤ m, ∃ k', At (run step s es) m' k' := by
  induction es generalizing s m k with
  | nil => exact ⟨m, Nat.le_refl m, k, hs⟩
  | cons e es ih =>
    rcases h s e m k hs hG.1 with ⟨m', hm', k', hs'⟩ | ⟨-, hs'⟩
    · obtain ⟨m'', hm'', hend⟩ := ih hs' hG.2
      exact ⟨m'', Nat.le_of_lt (Nat.lt_of_le_of_lt hm'' hm'), hend⟩
    · exact ih hs' hG.2

theorem Approaches.run_lt (h : Approaches step G kind At) {s : σ} {m : ℕ} {k : κ} {es : List ε} (hs : At s m k)
    (hG : Meets step G s es) (hm : m ≠ 0) (hkind : ∃ e ∈ es, kind e k) :
    ∃ m' < m, ∃ k', At (run step s es) m' k' := by
  induction es generalizing s with
  | nil => simp at hkind
  | cons e es ih =>
    rcases h s e m k hs hG.1 with ⟨m', hm', k', hs'⟩ | ⟨hnot, hs'⟩
    · obtain ⟨m'', hm'', hend⟩ := h.run_le hs' hG.2
      exact ⟨m'', Nat.lt_of_le_of_lt hm'' hm', hend⟩
    · obtain ⟨e', he', hkind⟩ := hkind
      rcases List.mem_cons.mp he' with rfl | he'
      · exact absurd hkind (hnot.resolve_left hm)
      · exact ih hs' hG.2 ⟨e', he', hkind⟩

theorem Approaches.run_rounds (h : Approaches step G kind At) {s : σ} {m : ℕ} {k : κ} {rounds : List (List ε)}
    (hs : At s m k) (hG : Meets step G s rounds.flatten) (hrounds : ∀ es ∈ rounds, Round kind es)
    (hm : m ≤ rounds.length) : ∃ k', At (run step s rounds.flatten) 0 k' := by
  induction rounds generalizing s m k with
  | nil =>
    obtain rfl : m = 0 := by simpa using hm
    exact ⟨k, hs⟩
  | cons es rounds ih =>
    rw [List.flatten_cons, Meets.append] at hG
    rw [List.flatten_cons, run_append]
    have hnear : ∃ m' ≤ rounds.length, ∃ k', At (run step s es) m' k' := by
      rw [List.length_cons] at hm
      by_cases h0 : m = 0
      · obtain ⟨m', hm', hend⟩ := h.run_le hs hG.1
        exact ⟨m', by omega, hend⟩
      · obtain ⟨m', hm', hend⟩ := h.run_lt hs hG.1 h0 (hrounds es List.mem_cons_self k)
        exact ⟨m', by omega, hend⟩
    obtain ⟨m', hm', k', hs'⟩ := hnear
    exact ih hs' hG.2 (fun es hes => hrounds es (List.mem_cons_of_mem _ hes)) hm'

end

end Machine
