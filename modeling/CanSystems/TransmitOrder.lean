import CanSystems.FrameRoundTrip
import CanSystems.Lib.Machine

/-!
# The order of frames on the bus

The driver hands the three transmit buffers out from the top down and waits for
all of them before it starts again. So among those that wait, a higher number is
an earlier frame, and the chip takes the highest.
-/

namespace CanSystems

namespace MCP2515

namespace Chip

/-! ## Changes that leave the waiting frames alone -/

/-- The same buffers wait, for the same requests and with the same frames. -/
structure Neutral (chip chip' : Chip) : Prop where
  requests : chip'.requests = chip.requests
  label : chip'.label = chip.label
  bus : chip'.bus = chip.bus
  disturbed : chip'.disturbed = chip.disturbed
  pending : ∀ n < 3, chip'.pending n = chip.pending n
  priority : ∀ n < 3, chip'.priority n = chip.priority n
  frame : ∀ n < 3, chip.pending n = true → txFrame chip'.regs n = txFrame chip.regs n

inductive Moves (chip : Chip) : Chip → Prop
  | refl : Moves chip chip
  | carry {chip' : Chip} : Moves chip chip' → Moves chip chip'.carry
  | neutral {chip' chip'' : Chip} : Moves chip chip' → Neutral chip' chip'' → Moves chip chip''

theorem Moves.trans {a b c : Chip} (hab : Moves a b) (hbc : Moves b c) : Moves a c := by
  induction hbc with
  | refl => exact hab
  | carry _ ih => exact ih.carry
  | neutral _ hn ih => exact ih.neutral hn

theorem moves_carries (frames : Nat) (chip : Chip) : Moves chip (carries frames chip) := by
  induction frames generalizing chip with
  | zero => exact .refl
  | succ frames ih => exact (Moves.carry .refl).trans (ih chip.carry)

theorem moves_settle (io : ChipIo) (chip : Chip) : Moves chip (chip.settle io) :=
  (moves_carries _ chip).neutral ⟨rfl, rfl, rfl, rfl, fun _ _ => rfl, fun _ _ => rfl, fun _ _ _ => rfl⟩

/-! ## A frame that goes out -/

theorem dataAt_congr {regs regs' : Nat → UInt8} {sidh : Nat} (h : ∀ i < 13, regs' (sidh + i) = regs (sidh + i))
    {length : Nat}
    (hlength : length ≤ 8) : dataAt regs' sidh length = dataAt regs sidh length := by
  refine List.map_congr_left fun i hi => ?_
  rw [List.mem_range] at hi
  rw [Nat.add_assoc, h _ (by omega)]

theorem bytesOf_le (rtr : Bool) (dlc : BitVec 4) : bytesOf rtr dlc ≤ 8 := by
  rw [bytesOf]
  split
  · exact Nat.zero_le 8
  · exact Nat.min_le_left _ _

theorem txFrame_congr {regs regs' : Nat → UInt8} {n : Nat}
    (h : ∀ i < 13, regs' (regTxBnSidh n + i) = regs (regTxBnSidh n + i)) :
    txFrame regs' n = txFrame regs n := by
  have h0 : regs' (regTxBnSidh n) = regs (regTxBnSidh n) := h 0 (by decide)
  have hident : identAt regs' (regTxBnSidh n) = identAt regs (regTxBnSidh n) := by
    rw [identAt, identAt, hasExtendedId, hasExtendedId, extendedId, extendedId, standardId, standardId, h0,
      h 1 (by decide), h 2 (by decide), h 3 (by decide)]
  simp only [txFrame, hident, h 4 (by decide), dataAt_congr h (bytesOf_le _ _)]

theorem pending_congr {chip chip' : Chip} {n : Nat} (h : chip'.regs (regTxBnCtrl n) = chip.regs (regTxBnCtrl n)) :
    chip'.pending n = chip.pending n ∧ chip'.priority n = chip.priority n := by
  rw [pending, pending, priority, priority, h]
  exact ⟨rfl, rfl⟩

theorem ctrl_inj {m n : Nat} : regTxBnCtrl m = regTxBnCtrl n ↔ m = n := by
  simp only [regTxBnCtrl]
  omega

theorem cleared_bits (x : UInt8) :
    (x &&& ~~~flagTxReq) &&& flagTxReq = 0 ∧ (x &&& ~~~flagTxReq) &&& 0x03 = x &&& 0x03 := by
  constructor
  · rw [UInt8.and_assoc, show ~~~flagTxReq &&& flagTxReq = 0 from by decide, UInt8.and_zero]
  · rw [UInt8.and_assoc, show ~~~flagTxReq &&& 0x03 = 0x03 from by decide]

/-- The buffer that has gone out no longer waits; the others are as they were. -/
structure Carried (chip : Chip) (n : Nat) (chip' : Chip) : Prop where
  requests : chip'.requests = chip.requests
  label : chip'.label = chip.label
  bus : chip'.bus = chip.bus ++ [(chip.label n, txFrame chip.regs n)]
  disturbed : chip'.disturbed = chip.disturbed
  pending : ∀ m < 3, chip'.pending m = (chip.pending m && m != n)
  priority : ∀ m < 3, chip'.priority m = chip.priority m
  frame : ∀ m < 3, txFrame chip'.regs m = txFrame chip.regs m

theorem carry_carried {chip : Chip} {n : Nat} (h : chip.next = some n) : Carried chip n chip.carry := by
  have hn := (next_waits h).1
  have hctrl : ∀ m < 3, chip.carry.regs (regTxBnCtrl m) =
      if m = n then chip.regs (regTxBnCtrl n) &&& ~~~flagTxReq else chip.regs (regTxBnCtrl m) := by
    intro m hm
    have hflags : regTxBnCtrl m ≠ regCanIntf := by
      simp only [regTxBnCtrl, regCanIntf]
      omega
    rw [carry_some h]
    dsimp only
    rw [setReg_other _ _ hflags, setReg]
    simp only [ctrl_inj]
  refine ⟨by rw [carry_some h], by rw [carry_some h], by rw [carry_some h], by rw [carry_some h], ?_, ?_, ?_⟩
  · intro m hm
    rw [pending, hctrl m hm]
    split
    · rename_i heq
      subst heq
      rw [(cleared_bits _).1, bne_self_eq_false, bne_self_eq_false, Bool.and_false]
    · rename_i hne
      rw [bne_iff_ne.mpr hne, Bool.and_true, pending]
  · intro m hm
    rw [priority, hctrl m hm, priority]
    split
    · rename_i heq
      subst heq
      exact (cleared_bits _).2
    · rfl
  · intro m hm
    exact txFrame_congr fun i hi => carry_regs (plain_txBuffer hm hi).1

theorem next_highest {chip : Chip} (hequal : ∀ n < 3, chip.priority n = 0) {n : Nat} (h : chip.next = some n) :
    ∀ m < 3, chip.pending m = true → m ≤ n := by
  have hwaits : ∀ m < 3, (chip.pending m && buffers.all fun k => !chip.pending k ||
    decide (chip.priority k ≤ chip.priority m)) =
      chip.pending m := by
    intro m hm
    have hall : (buffers.all fun k => !chip.pending k || decide (chip.priority k ≤ chip.priority m)) = true := by
      rw [List.all_eq_true]
      intro k hk
      rw [hequal k (mem_buffers.mp hk), hequal m hm]
      simp
    rw [hall, Bool.and_true]
  have hnext : chip.next = [2, 1, 0].find? chip.pending := by
    rw [next, show buffers = [2, 1, 0] from rfl] at *
    simp only [List.find?_cons, hwaits 2 (by decide), hwaits 1 (by decide), hwaits 0 (by decide), List.find?_nil]
  rw [hnext] at h
  intro m hm hpending
  by_contra hlt
  cases h2 : chip.pending 2 with
  | true =>
    rw [List.find?_cons_of_pos h2] at h
    cases h
    omega
  | false =>
    cases h1 : chip.pending 1 with
    | true =>
      rw [List.find?_cons_of_neg (by rw [h2]; decide), List.find?_cons_of_pos h1] at h
      cases h
      obtain rfl : m = 2 := by omega
      rw [h2] at hpending
      cases hpending
    | false =>
      obtain rfl | rfl | rfl : m = 0 ∨ m = 1 ∨ m = 2 := by omega
      · omega
      · rw [h1] at hpending
        cases hpending
      · rw [h2] at hpending
        cases hpending

/-! ## The queue in the buffers -/

/-- The frames accepted so far, by their number: those on the bus, in order, and behind them those that wait, a
higher buffer before a lower one and none below `left`. -/
structure Queue (chip : Chip) (left : Nat) (accepted : List WireFrame) : Prop where
  requests : chip.requests = accepted.length
  priority : ∀ n < 3, chip.priority n = 0
  above : ∀ n < 3, chip.pending n = true → left ≤ n
  ordered : ∀ m n, m < n → n < 3 → chip.pending m = true → chip.pending n = true → chip.label n < chip.label m
  holds : ∀ n < 3, chip.pending n = true → accepted[chip.label n]? = some (txFrame chip.regs n)
  sent : ∀ p ∈ chip.bus, accepted[p.1]? = some p.2
  increasing : chip.bus.Pairwise fun p q => p.1 < q.1
  behind : ∀ p ∈ chip.bus, ∀ n < 3, chip.pending n = true → p.1 < chip.label n
  undisturbed : chip.disturbed = false

section
variable {chip : Chip} {left : Nat} {accepted : List WireFrame}

theorem Queue.neutral (h : Queue chip left accepted) {chip' : Chip} (hn : Neutral chip chip') :
    Queue chip' left accepted := by
  obtain ⟨hrequests, hlabel, hbus, hdisturbed, hpending, hpriority, hframe⟩ := hn
  refine ⟨hrequests.trans h.requests, ?_, ?_, ?_, ?_, ?_, ?_, ?_, hdisturbed.trans h.undisturbed⟩
  · exact fun n hlt => (hpriority n hlt).trans (h.priority n hlt)
  · exact fun n hlt hwaits => h.above n hlt (by rwa [← hpending n hlt])
  · intro m n hmn hlt hm hwaits
    rw [hpending m (by omega)] at hm
    rw [hpending n hlt] at hwaits
    rw [hlabel]
    exact h.ordered m n hmn hlt hm hwaits
  · intro n hlt hwaits
    rw [hpending n hlt] at hwaits
    rw [hlabel, hframe n hlt hwaits]
    exact h.holds n hlt hwaits
  · rw [hbus]
    exact h.sent
  · rw [hbus]
    exact h.increasing
  · intro p hp n hlt hwaits
    rw [hbus] at hp
    rw [hpending n hlt] at hwaits
    rw [hlabel]
    exact h.behind p hp n hlt hwaits

theorem Queue.carry (h : Queue chip left accepted) : Queue chip.carry left accepted := by
  cases hnext : chip.next with
  | none => rwa [carry_none hnext]
  | some k =>
    obtain ⟨hk, hkWaits, -⟩ := next_waits hnext
    have hhighest := next_highest h.priority hnext
    obtain ⟨hrequests, hlabel, hbus, hdisturbed, hpending, hpriority, hframe⟩ := carry_carried hnext
    have hstill : ∀ n < 3, chip.carry.pending n = true → chip.pending n = true ∧ n < k := by
      intro n hlt hwaits
      rw [hpending n hlt, Bool.and_eq_true, bne_iff_ne] at hwaits
      have hle := hhighest n hlt hwaits.1
      exact ⟨hwaits.1, by omega⟩
    refine ⟨hrequests.trans h.requests, ?_, ?_, ?_, ?_, ?_, ?_, ?_, hdisturbed.trans h.undisturbed⟩
    · exact fun n hlt => (hpriority n hlt).trans (h.priority n hlt)
    · exact fun n hlt hwaits => h.above n hlt (hstill n hlt hwaits).1
    · intro m n hmn hlt hm hwaits
      rw [hlabel]
      exact h.ordered m n hmn hlt (hstill m (by omega) hm).1 (hstill n hlt hwaits).1
    · intro n hlt hwaits
      rw [hlabel, hframe n hlt]
      exact h.holds n hlt (hstill n hlt hwaits).1
    · intro p hp
      rw [hbus, List.mem_append, List.mem_singleton] at hp
      rcases hp with hp | rfl
      · exact h.sent p hp
      · exact h.holds k hk hkWaits
    · rw [hbus, List.pairwise_append]
      refine ⟨h.increasing, List.pairwise_singleton _ _, ?_⟩
      intro p hp q hq
      rw [List.mem_singleton.mp hq]
      exact h.behind p hp k hk hkWaits
    · intro p hp n hlt hwaits
      obtain ⟨hn, hnk⟩ := hstill n hlt hwaits
      rw [hbus, List.mem_append, List.mem_singleton] at hp
      rw [hlabel]
      rcases hp with hp | rfl
      · exact h.behind p hp n hlt hn
      · exact h.ordered n k hnk hk hn hkWaits

theorem Queue.moves (h : Queue chip left accepted) {chip' : Chip} (hmoves : Moves chip chip') :
    Queue chip' left accepted := by
  induction hmoves with
  | refl => exact h
  | carry _ ih => exact ih.carry
  | neutral _ hn ih => exact ih.neutral hn

/-- No buffer below `left` is taken, so more of them may be given out. -/
theorem Queue.lower (h : Queue chip left accepted) {left' : Nat} (hle : left' ≤ left) : Queue chip left' accepted :=
  { h with above := fun n hlt hwaits => Nat.le_trans hle (h.above n hlt hwaits) }

theorem Queue.drained (h : Queue chip left accepted) (hnone : ∀ n < 3, chip.pending n = false) (left' : Nat) :
    Queue chip left' accepted :=
  { h with above := fun n hlt hwaits => absurd hwaits (by rw [hnone n hlt]; decide) }

theorem Moves.shrinks {chip' : Chip} (h : Moves chip chip') {n : Nat} (hn : n < 3) (hnot : chip.pending n = false) :
    chip'.pending n = false := by
  induction h with
  | refl => exact hnot
  | @carry chip' _ ih =>
    cases hnext : chip'.next with
    | none => rw [carry_none hnext]; exact ih
    | some k => rw [(carry_carried hnext).pending n hn, ih, Bool.false_and]
  | neutral _ hneutral ih => rw [hneutral.pending n hn, ih]

def Kept (chip : Chip) (k : Nat) : Prop :=
  (∃ p ∈ chip.bus, p.1 = k) ∨ ∃ n < 3, chip.pending n = true ∧ chip.label n = k

theorem Moves.kept {chip' : Chip} (h : Moves chip chip') {k : Nat} (hkept : chip.Kept k) : chip'.Kept k := by
  induction h with
  | refl => exact hkept
  | @carry chip' _ ih =>
    cases hnext : chip'.next with
    | none => rw [carry_none hnext]; exact ih
    | some j =>
      obtain ⟨hrequests, hlabel, hbus, hdisturbed, hpending, hpriority, hframe⟩ := carry_carried hnext
      rcases ih with ⟨p, hp, rfl⟩ | ⟨n, hn, hwaits, rfl⟩
      · exact .inl ⟨p, by rw [hbus]; exact List.mem_append_left _ hp, rfl⟩
      · by_cases hnj : n = j
        · subst hnj
          exact .inl ⟨_, by rw [hbus]; exact List.mem_append_right _ List.mem_cons_self, rfl⟩
        · exact .inr ⟨n, hn, by rw [hpending n hn, hwaits, bne_iff_ne.mpr hnj]; rfl, by rw [hlabel]⟩
  | neutral _ hneutral ih =>
    rcases ih with ⟨p, hp, rfl⟩ | ⟨n, hn, hwaits, rfl⟩
    · exact .inl ⟨p, by rwa [hneutral.bus], rfl⟩
    · exact .inr ⟨n, hn, by rwa [hneutral.pending n hn], by rw [hneutral.label]⟩

end

/-! ## Registers that are written -/

theorem bufferOf_some {a n : Nat} (h : bufferOf a = some n) :
    n < 3 ∧ regTxBnCtrl n ≤ a ∧ a < regTxBnCtrl n + 0x0E := by
  have hfound := List.find?_some h
  rw [Bool.and_eq_true, decide_eq_true_eq, decide_eq_true_eq] at hfound
  exact ⟨mem_buffers.mp (List.mem_of_find?_eq_some h), hfound⟩

theorem bufferOf_ctrl {n : Nat} (hn : n < 3) : bufferOf (regTxBnCtrl n) = some n := by
  obtain rfl | rfl | rfl : n = 0 ∨ n = 1 ∨ n = 2 := by omega
  · decide
  · decide
  · decide

/-- A register that is not a control register, nor of a buffer that waits. -/
structure Beside (chip : Chip) (a : Nat) : Prop where
  control : ∀ n < 3, a ≠ regTxBnCtrl n
  content : ∀ n < 3, chip.pending n = true → ∀ i < 13, a ≠ regTxBnSidh n + i

theorem Beside.raised {chip : Chip} {a : Nat} (h : Beside chip a) (value : UInt8) : chip.raised a value = none := by
  rw [Chip.raised, Option.filter_eq_none_iff]
  intro n hn
  simp [h.control n (bufferOf_some hn).1]

theorem Beside.struck {chip : Chip} {a : Nat} (h : Beside chip a) : chip.struck a = none := by
  rw [Chip.struck, Option.filter_eq_none_iff]
  intro n hn
  obtain ⟨hlt, hfrom, hto⟩ := bufferOf_some hn
  have hcontent := h.content n hlt
  have hcontrol := h.control n hlt
  cases hwaits : chip.pending n with
  | false => simp
  | true =>
    simp only [regTxBnCtrl] at hfrom hto hcontrol
    refine absurd ?_ (hcontent hwaits (a - regTxBnSidh n) (by simp only [regTxBnSidh]; omega))
    simp only [regTxBnSidh]
    omega

theorem store_neutral {chip : Chip} {a : Nat} (value : UInt8) (h : Beside chip a) :
    Neutral chip (chip.store a value) := by
  have hregs : ∀ b, b ≠ a → (chip.store a value).regs b = chip.regs b := fun b hb => store_regs value hb
  have hraised := h.raised value
  have hstruck := h.struck
  have hsame : (chip.store a value).requests = chip.requests ∧ (chip.store a value).label = chip.label ∧
      (chip.store a value).bus = chip.bus ∧ (chip.store a value).disturbed = chip.disturbed := by
    rw [store]
    split
    · exact ⟨rfl, rfl, rfl, rfl⟩
    · simp [hraised, hstruck]
  obtain ⟨hrequests, hlabel, hbus, hdisturbed⟩ := hsame
  refine ⟨hrequests, hlabel, hbus, hdisturbed, ?_, ?_, ?_⟩
  · exact fun n hn => (pending_congr (hregs _ (h.control n hn).symm)).1
  · exact fun n hn => (pending_congr (hregs _ (h.control n hn).symm)).2
  · exact fun n hn hwaits => txFrame_congr fun i hi => hregs _ (h.content n hn hwaits i hi).symm

theorem plain_ctrl {n : Nat} (hn : n < 3) :
    ¬ (regTxBnCtrl n = regCanStat ∨ configuration (regTxBnCtrl n) = true) := by
  obtain rfl | rfl | rfl : n = 0 ∨ n = 1 ∨ n = 2 := by omega
  · decide
  · decide
  · decide

theorem store_ctrl (chip : Chip) {n : Nat} (hn : n < 3) (value : UInt8) :
    chip.store (regTxBnCtrl n) value = { chip with
      regs := setReg chip.regs (regTxBnCtrl n) value
      requests := if !chip.pending n && value &&& flagTxReq != 0 then chip.requests + 1 else chip.requests
      label := fun m => if (!chip.pending n && value &&& flagTxReq != 0) = true ∧ m = n then chip.requests else
        chip.label m } := by
  have hplain : ¬ (decide (regTxBnCtrl n = regCanStat) ||
      (configuration (regTxBnCtrl n) && !chip.inConfiguration)) = true := by
    rw [Bool.or_eq_true, decide_eq_true_eq]
    rintro (hstat | hconf)
    · exact plain_ctrl hn (.inl hstat)
    · exact plain_ctrl hn (.inr (Bool.and_eq_true_iff.mp hconf).1)
  have hstruck : chip.struck (regTxBnCtrl n) = none := by
    rw [struck, bufferOf_ctrl hn, Option.filter_eq_none_iff]
    rintro m hm
    cases hm
    simp
  have hraised : chip.raised (regTxBnCtrl n) value =
      if (!chip.pending n && value &&& flagTxReq != 0) = true then some n else none := by
    rw [raised, bufferOf_ctrl hn, Option.filter_some]
    simp
  rw [store, if_neg hplain, hraised, hstruck]
  cases hup : (!chip.pending n && value &&& flagTxReq != 0) with
  | true => simp [eq_comm]
  | false => simp

section
variable {chip : Chip} {accepted : List WireFrame}

theorem Queue.raise {n : Nat} (hn : n < 3) (h : Queue chip (n + 1) accepted) :
    Queue (chip.store (regTxBnCtrl n) flagTxReq) n (accepted ++ [txFrame chip.regs n]) := by
  have hfree : chip.pending n = false := by
    cases hwaits : chip.pending n with
    | false => rfl
    | true => exact absurd (h.above n hn hwaits) (by omega)
  have hup : (!chip.pending n && flagTxReq &&& flagTxReq != 0) = true := by
    rw [hfree]
    decide
  have hstore := store_ctrl chip hn flagTxReq
  simp only [hup, if_true, true_and] at hstore
  have hctrl : ∀ m, m ≠ n → (chip.store (regTxBnCtrl n) flagTxReq).regs (regTxBnCtrl m) = chip.regs
      (regTxBnCtrl m) :=
    fun m hm => store_regs _ fun heq => hm (ctrl_inj.mp heq)
  have hself : (chip.store (regTxBnCtrl n) flagTxReq).regs (regTxBnCtrl n) = flagTxReq := by
    rw [hstore]
    exact setReg_same _ _ _
  have hframe : ∀ m < 3, txFrame (chip.store (regTxBnCtrl n) flagTxReq).regs m = txFrame chip.regs m := by
    refine fun m hm => txFrame_congr fun i hi => store_regs _ ?_
    simp only [regTxBnSidh, regTxBnCtrl]
    omega
  have hwaiting : ∀ m < 3, m ≠ n → (chip.store (regTxBnCtrl n) flagTxReq).pending m = chip.pending m :=
    fun m _ hm => (pending_congr (hctrl m hm)).1
  have hlabelOther : ∀ m, m ≠ n → (chip.store (regTxBnCtrl n) flagTxReq).label m = chip.label m := by
    intro m hm
    rw [hstore]
    exact if_neg hm
  have hlabelSelf : (chip.store (regTxBnCtrl n) flagTxReq).label n = accepted.length := by
    rw [hstore, ← h.requests]
    exact if_pos rfl
  have hbus : (chip.store (regTxBnCtrl n) flagTxReq).bus = chip.bus := by rw [hstore]
  have hlt : ∀ {k : Nat} {f : WireFrame}, accepted[k]? = some f → k < accepted.length := by
    intro k f hk
    exact (List.getElem?_eq_some_iff.mp hk).1
  have hgrown : ∀ {k : Nat} {f : WireFrame}, accepted[k]? = some f →
      (accepted ++ [txFrame chip.regs n])[k]? = some f := by
    intro k f hk
    rw [List.getElem?_append_left (hlt hk)]
    exact hk
  refine ⟨?_, ?_, ?_, ?_, ?_, ?_, ?_, ?_, ?_⟩
  · rw [hstore, List.length_append, List.length_singleton, ← h.requests]
  · intro m hm
    by_cases hmn : m = n
    · subst hmn
      rw [Chip.priority, hself]
      decide
    · rw [(pending_congr (hctrl m hmn)).2]
      exact h.priority m hm
  · intro m hm hwaits
    by_cases hmn : m = n
    · exact Nat.le_of_eq hmn.symm
    · rw [hwaiting m hm hmn] at hwaits
      exact Nat.le_of_succ_le (h.above m hm hwaits)
  · intro m k hmk hk hm hwaits
    have hkn : k ≠ n := by
      rintro rfl
      rw [hwaiting m (by omega) (by omega)] at hm
      have := h.above m (by omega) hm
      omega
    rw [hwaiting k hk hkn] at hwaits
    rw [hlabelOther k hkn]
    by_cases hmn : m = n
    · subst hmn
      rw [hlabelSelf]
      exact hlt (h.holds k hk hwaits)
    · rw [hwaiting m (by omega) hmn] at hm
      rw [hlabelOther m hmn]
      exact h.ordered m k hmk hk hm hwaits
  · intro m hm hwaits
    rw [hframe m hm]
    by_cases hmn : m = n
    · subst hmn
      rw [hlabelSelf, List.getElem?_append_right (Nat.le_refl _), Nat.sub_self]
      rfl
    · rw [hwaiting m hm hmn] at hwaits
      rw [hlabelOther m hmn]
      exact hgrown (h.holds m hm hwaits)
  · intro p hp
    rw [hbus] at hp
    exact hgrown (h.sent p hp)
  · rw [hbus]
    exact h.increasing
  · intro p hp m hm hwaits
    rw [hbus] at hp
    by_cases hmn : m = n
    · subst hmn
      rw [hlabelSelf]
      exact hlt (h.sent p hp)
    · rw [hwaiting m hm hmn] at hwaits
      rw [hlabelOther m hmn]
      exact h.behind p hp m hm hwaits
  · rw [hstore]
    exact h.undisturbed

theorem Queue.withdraw {n left : Nat} (hn : n < 3) (h : Queue chip left accepted) {value : UInt8}
    (hclear : value &&& flagTxReq = 0)
    (hpriority : value &&& 0x03 = 0) : Queue (chip.store (regTxBnCtrl n) value) left accepted := by
  have hdown : (!chip.pending n && value &&& flagTxReq != 0) = false := by
    rw [hclear]
    simp
  have hstore := store_ctrl chip hn value
  simp only [hdown, Bool.false_eq_true, if_false, false_and] at hstore
  have hctrl : ∀ m, m ≠ n → (chip.store (regTxBnCtrl n) value).regs (regTxBnCtrl m) = chip.regs (regTxBnCtrl m) :=
    fun m hm => store_regs _ fun heq => hm (ctrl_inj.mp heq)
  have hself : (chip.store (regTxBnCtrl n) value).regs (regTxBnCtrl n) = value := by
    rw [hstore]
    exact setReg_same _ _ _
  have hframe : ∀ m < 3, txFrame (chip.store (regTxBnCtrl n) value).regs m = txFrame chip.regs m := by
    refine fun m hm => txFrame_congr fun i hi => store_regs _ ?_
    simp only [regTxBnSidh, regTxBnCtrl]
    omega
  have hstill : ∀ m, (chip.store (regTxBnCtrl n) value).pending m = true → chip.pending m = true := by
    intro m hwaits
    by_cases hmn : m = n
    · subst hmn
      rw [pending, hself, hclear] at hwaits
      cases hwaits
    · rwa [← (pending_congr (hctrl m hmn)).1]
  have hlabel : (chip.store (regTxBnCtrl n) value).label = chip.label := by rw [hstore]
  have hbus : (chip.store (regTxBnCtrl n) value).bus = chip.bus := by rw [hstore]
  refine ⟨by rw [hstore]; exact h.requests, ?_, ?_, ?_, ?_, ?_, ?_, ?_, by rw [hstore]; exact h.undisturbed⟩
  · intro m hm
    by_cases hmn : m = n
    · subst hmn
      rw [Chip.priority, hself, hpriority]
    · rw [(pending_congr (hctrl m hmn)).2]
      exact h.priority m hm
  · exact fun m hm hwaits => h.above m hm (hstill m hwaits)
  · intro m k hmk hk hm hwaits
    rw [hlabel]
    exact h.ordered m k hmk hk (hstill m hm) (hstill k hwaits)
  · intro m hm hwaits
    rw [hlabel, hframe m hm]
    exact h.holds m hm (hstill m hwaits)
  · rw [hbus]
    exact h.sent
  · rw [hbus]
    exact h.increasing
  · intro p hp m hm hwaits
    rw [hbus] at hp
    rw [hlabel]
    exact h.behind p hp m hm (hstill m hwaits)

end

/-! ## A buffer that is loaded -/

theorem moves_writeBurst (io : ChipIo) {n : Nat} (hn : n < 3) (data : List UInt8) {j : Nat}
    (hj : j + data.length ≤ 13) {chip : Chip}
    (hfree : chip.pending n = false) : Moves chip (chip.writeBurst io (regTxBnSidh n + j) data) := by
  induction data generalizing chip j with
  | nil => exact .refl
  | cons value data ih =>
    rw [List.length_cons] at hj
    have hsettled := moves_settle io chip
    have hbeside : Beside (chip.settle io) (regTxBnSidh n + j) := by
      constructor
      · intro m _
        simp only [regTxBnSidh, regTxBnCtrl]
        omega
      · intro m hm hwaits i hi
        have hmn : m ≠ n := by
          rintro rfl
          rw [hsettled.shrinks hn hfree] at hwaits
          cases hwaits
        simp only [regTxBnSidh]
        omega
    have hwrite : Moves chip (chip.writeRegister io (regTxBnSidh n + j) value) :=
      hsettled.neutral (store_neutral value hbeside)
    exact hwrite.trans (@ih (j + 1) (by omega) _ (hwrite.shrinks hn hfree))

theorem beside_outside {chip : Chip} {a : Nat} (h : a < 0x30 ∨ 0x60 ≤ a) : Beside chip a := by
  constructor
  · intro n hn
    simp only [regTxBnCtrl]
    omega
  · intro n hn _ i hi
    simp only [regTxBnSidh]
    omega

theorem moves_writeRegister (io : ChipIo) (chip : Chip) {a : Nat} (h : a < 0x30 ∨ 0x60 ≤ a) (value : UInt8) :
    Moves chip (chip.writeRegister io a value) := (moves_settle io chip).neutral
      (store_neutral value (beside_outside h))

theorem moves_modifyRegister (io : ChipIo) (chip : Chip) {a : Nat} (h : a < 0x30 ∨ 0x60 ≤ a) (mask value : UInt8) :
    Moves chip (chip.modifyRegister io a mask value) := by
  rw [modifyRegister]
  split
  · exact moves_settle io chip
  · exact (moves_settle io chip).neutral (store_neutral _ (beside_outside h))

theorem kept_raise {chip : Chip} {n : Nat} (hn : n < 3) (hfree : chip.pending n = false) {k : Nat}
    (h : chip.Kept k) :
    (chip.store (regTxBnCtrl n) flagTxReq).Kept k := by
  have hstore := store_ctrl chip hn flagTxReq
  rcases h with ⟨p, hp, rfl⟩ | ⟨m, hm, hwaits, rfl⟩
  · exact .inl ⟨p, by rw [hstore]; exact hp, rfl⟩
  · have hmn : m ≠ n := by
      rintro rfl
      rw [hfree] at hwaits
      cases hwaits
    refine .inr ⟨m, hm, ?_, ?_⟩
    · rw [(pending_congr (store_regs _ fun heq => hmn (ctrl_inj.mp heq))).1]
      exact hwaits
    · rw [hstore]
      exact if_neg fun hup => hmn hup.2

theorem kept_raised {chip : Chip} {n : Nat} (hn : n < 3) (hfree : chip.pending n = false) :
    (chip.store (regTxBnCtrl n) flagTxReq).Kept chip.requests := by
  have hup : (!chip.pending n && flagTxReq &&& flagTxReq != 0) = true := by
    rw [hfree]
    decide
  have hstore := store_ctrl chip hn flagTxReq
  refine .inr ⟨n, hn, ?_, ?_⟩
  · rw [pending, hstore]
    dsimp only
    rw [setReg_same]
    decide
  · rw [hstore]
    exact if_pos ⟨hup, rfl⟩

theorem loadBuffer_moves (io : ChipIo) {n : Nat} (hn : n < 3) (c : CANController) {chip : Chip}
    (hfree : chip.pending n = false) :
    ∃ chip', Moves chip chip' ∧ loadBuffer io n c chip = chip'.store (regTxBnCtrl n) flagTxReq := by
  have hlength : 0 + (frameBytes c).length ≤ 13 := by
    have hle := c.txLength_le
    rw [length_frameBytes]
    split <;> omega
  have hburst := moves_writeBurst io hn (frameBytes c) hlength hfree
  rw [Nat.add_zero] at hburst
  exact ⟨_, (hburst.trans (moves_modifyRegister io _ (by decide) (flagTxnIf n) 0x00)).trans (moves_settle io _),
    rfl⟩

theorem Queue.load (io : ChipIo) {n : Nat} (hn : n < 3) {c : CANController} (hlength : c.txLength = c.txDlc)
    {chip : Chip}
    {accepted : List WireFrame} (h : Queue chip (n + 1) accepted) :
    Queue (loadBuffer io n c chip) n (accepted ++ [c.txFrame]) ∧
      ∀ k, (k < accepted.length → chip.Kept k) → k < (accepted ++ [c.txFrame]).length →
        (loadBuffer io n c chip).Kept k := by
  have hfree : chip.pending n = false := by
    cases hwaits : chip.pending n with
    | false => rfl
    | true => exact absurd (h.above n hn hwaits) (by omega)
  obtain ⟨chip', hmoves, hload⟩ := loadBuffer_moves io hn c hfree
  have hframe : txFrame chip'.regs n = c.txFrame := by
    rw [← loadBuffer_frame io hn chip hlength, hload]
    refine (txFrame_congr fun i hi => store_regs _ ?_).symm
    simp only [regTxBnSidh, regTxBnCtrl]
    omega
  have hfree' := hmoves.shrinks hn hfree
  rw [hload, ← hframe]
  refine ⟨(h.moves hmoves).raise hn, ?_⟩
  intro k hkept hk
  rw [List.length_append, List.length_singleton] at hk
  rcases Nat.lt_succ_iff_lt_or_eq.mp hk with hold | rfl
  · exact kept_raise hn hfree' (hmoves.kept (hkept hold))
  · rw [← (h.moves hmoves).requests]
    exact kept_raised hn hfree'

end Chip

/-! ## Waiting for the buffers -/

theorem readPending_cons (io : ChipIo) (n : Nat) (ns : List Nat) (chip : Chip) :
    readPending io (n :: ns) chip =
      (if (chip.settle io).pending n then n :: (readPending io ns (chip.settle io)).1 else
        (readPending io ns (chip.settle io)).1, (readPending io ns (chip.settle io)).2) := rfl

theorem readPending_moves (io : ChipIo) (ns : List Nat) (chip : Chip) :
    Chip.Moves chip (readPending io ns chip).2 := by
  induction ns generalizing chip with
  | nil => exact .refl
  | cons n ns ih => exact (Chip.moves_settle io chip).trans (ih _)

theorem readPending_free (io : ChipIo) {ns : List Nat} (hns : ∀ n ∈ ns, n < 3) {chip : Chip}
    (h : (readPending io ns chip).1 = []) :
    ∀ n ∈ ns, (readPending io ns chip).2.pending n = false := by
  induction ns generalizing chip with
  | nil => simp
  | cons n ns ih =>
    rw [readPending_cons] at h ⊢
    have hread : (chip.settle io).pending n = false ∧ (readPending io ns (chip.settle io)).1 = [] := by
      cases hwaits : (chip.settle io).pending n with
      | true =>
        rw [hwaits, if_pos rfl] at h
        cases h
      | false =>
        rw [hwaits, if_neg Bool.false_ne_true] at h
        exact ⟨rfl, h⟩
    intro m hm
    rcases List.mem_cons.mp hm with rfl | hm
    · exact (readPending_moves io ns (chip.settle io)).shrinks (hns m List.mem_cons_self) hread.1
    · exact ih (fun k hk => hns k (List.mem_cons_of_mem _ hk)) hread.2 m hm

theorem readPending_lt (io : ChipIo) {ns : List Nat} (hns : ∀ n ∈ ns, n < 3) (chip : Chip) :
    ∀ n ∈ (readPending io ns chip).1, n < 3 := by
  induction ns generalizing chip with
  | nil => simp [readPending]
  | cons n ns ih =>
    have hrest := ih (fun k hk => hns k (List.mem_cons_of_mem _ hk)) (chip.settle io)
    rw [readPending_cons]
    intro m hm
    cases hwaits : (chip.settle io).pending n with
    | true =>
      rw [hwaits, if_pos rfl] at hm
      rcases List.mem_cons.mp hm with rfl | hm
      · exact hns m List.mem_cons_self
      · exact hrest m hm
    | false =>
      rw [hwaits, if_neg Bool.false_ne_true] at hm
      exact hrest m hm

/-- What `flushTx` comes to. -/
inductive Flushed (io : ChipIo) (chip : Chip) : Option Bool × Chip → Prop
  | waiting {chip' : Chip} : Chip.Moves chip chip' → Flushed io chip (none, chip')
  | drained {chip' : Chip} : Chip.Moves chip chip' → (∀ n < 3, chip'.pending n = false) → Flushed io chip
    (some true, chip')
  | timedOut {chip' : Chip} (ns : List Nat) : Chip.Moves chip chip' → (∀ n ∈ ns, n < 3) →
      Flushed io chip (some false, abort io ns chip')

theorem flushRounds_flushed (io : ChipIo) (startTime : UInt32) (rounds : Nat) (chip : Chip) :
    Flushed io chip (flushRounds io startTime rounds chip) := by
  have hthree : ∀ n ∈ List.range txBufferCount, n < 3 := fun n hn => List.mem_range.mp hn
  induction rounds generalizing chip with
  | zero => exact .waiting .refl
  | succ rounds ih =>
    have hmoves := readPending_moves io (List.range txBufferCount) chip
    rw [flushRounds]
    simp only
    split
    · rename_i hnone
      exact .drained hmoves fun n hn => readPending_free io hthree hnone n (List.mem_range.mpr hn)
    · split
      · exact .timedOut _ hmoves (readPending_lt io hthree chip)
      · have hrest := ih (readPending io (List.range txBufferCount) chip).2
        generalize flushRounds io startTime rounds (readPending io (List.range txBufferCount) chip).2 =
          result at hrest ⊢
        cases hrest with
        | waiting hm => exact .waiting (hmoves.trans hm)
        | drained hm hfree => exact .drained (hmoves.trans hm) hfree
        | timedOut ns hm hns => exact .timedOut ns (hmoves.trans hm) hns

theorem flushTx_flushed (io : ChipIo) (rounds : Nat) (chip : Chip) : Flushed io chip (flushTx io rounds chip) :=
  flushRounds_flushed io _ rounds chip

theorem queue_abort (io : ChipIo) {ns : List Nat} (hns : ∀ n ∈ ns, n < 3) {chip : Chip} {left : Nat}
    {accepted : List WireFrame}
    (h : chip.Queue left accepted) : (abort io ns chip).Queue left accepted := by
  induction ns generalizing chip with
  | nil => exact h
  | cons n ns ih =>
    have hn := hns n List.mem_cons_self
    refine ih (fun k hk => hns k (List.mem_cons_of_mem _ hk)) ?_
    have hsettled := h.moves (Chip.moves_settle io chip)
    dsimp only
    rw [Chip.modifyRegister]
    split
    · exact hsettled
    · have hbits := Chip.cleared_bits ((chip.settle io).regs (regTxBnCtrl n))
      have hvalue : ((chip.settle io).regs (regTxBnCtrl n) &&& ~~~flagTxReq) ||| (0x00 &&& flagTxReq) =
          (chip.settle io).regs (regTxBnCtrl n) &&& ~~~flagTxReq := by
        rw [UInt8.zero_and, UInt8.or_zero]
      rw [hvalue]
      exact hsettled.withdraw hn hbits.1 (hbits.2.trans (hsettled.priority n hn))

theorem Flushed.queue {io : ChipIo} {chip : Chip} {result : Option Bool × Chip} (hflushed : Flushed io chip result)
    {left : Nat}
    {accepted : List WireFrame} (h : chip.Queue left accepted) : result.2.Queue left accepted := by
  cases hflushed with
  | waiting hmoves => exact h.moves hmoves
  | drained hmoves _ => exact h.moves hmoves
  | timedOut ns hmoves hns => exact queue_abort io hns (h.moves hmoves)

theorem Flushed.kept {io : ChipIo} {chip : Chip} {result : Option Bool × Chip} (hflushed : Flushed io chip result)
    (h : result.1 ≠ some false) {k : Nat} (hkept : chip.Kept k) : result.2.Kept k := by
  cases hflushed with
  | waiting hmoves => exact hmoves.kept hkept
  | drained hmoves _ => exact hmoves.kept hkept
  | timedOut ns _ _ => exact absurd rfl h

theorem settle_accesses (io : ChipIo) (chip : Chip) : (chip.settle io).accesses = chip.accesses + 1 := rfl

theorem readPending_accesses (io : ChipIo) (ns : List Nat) (chip : Chip) :
    (readPending io ns chip).2.accesses = chip.accesses + ns.length := by
  induction ns generalizing chip with
  | nil => rfl
  | cons n ns ih =>
    rw [readPending_cons, List.length_cons]
    dsimp only
    rw [ih, settle_accesses]
    omega

/-- `flushTx` returns as soon as one of its rounds finds 20 ms gone. -/
theorem flushRounds_returns (io : ChipIo) (startTime : UInt32) {rounds : Nat} {chip : Chip}
    (h : ∃ k < rounds, io.millis (chip.accesses + 3 * (k + 1)) - startTime ≥ txDrainTimeoutMs) :
    (flushRounds io startTime rounds chip).1 ≠ none := by
  induction rounds generalizing chip with
  | zero =>
    obtain ⟨k, hk, -⟩ := h
    exact absurd hk (Nat.not_lt_zero k)
  | succ rounds ih =>
    obtain ⟨k, hk, hlate⟩ := h
    have haccesses := readPending_accesses io (List.range txBufferCount) chip
    rw [List.length_range, txBufferCount] at haccesses
    rw [flushRounds]
    dsimp only
    split
    · exact Option.some_ne_none true
    · split
      · exact Option.some_ne_none false
      · rename_i hearly
        cases k with
        | zero =>
          rw [txBufferCount, haccesses] at hearly
          exact absurd hlate hearly
        | succ k =>
          refine ih ⟨k, Nat.lt_of_succ_lt_succ hk, ?_⟩
          rw [txBufferCount, haccesses, show chip.accesses + 3 + 3 * (k + 1) = chip.accesses +
            3 * (k + 1 + 1) by omega]
          exact hlate

theorem queue_reset {chip : Chip} (hrequests : chip.requests = 0) (hbus : chip.bus = [])
    (hdisturbed : chip.disturbed = false)
    (left : Nat) : (reset chip).Queue left [] := by
  have hctrl : ∀ n < 3, (reset chip).regs (regTxBnCtrl n) = 0 := by
    intro n hn
    obtain rfl | rfl | rfl : n = 0 ∨ n = 1 ∨ n = 2 := by omega
    · rfl
    · rfl
    · rfl
  have hnone : ∀ n < 3, (reset chip).pending n = false := by
    intro n hn
    rw [Chip.pending, hctrl n hn]
    rfl
  have hnever : ∀ {P : Prop}, ∀ n < 3, (reset chip).pending n = true → P := by
    intro P n hn hwaits
    rw [hnone n hn] at hwaits
    cases hwaits
  have hempty : (reset chip).bus = [] := hbus
  refine ⟨hrequests, ?_, fun n hn hw => hnever n hn hw, fun m n _ hn _ hw => hnever n hn hw,
    fun n hn hw => hnever n hn hw, ?_, ?_, ?_, hdisturbed⟩
  · intro n hn
    rw [Chip.priority, hctrl n hn]
    rfl
  · simp [hempty]
  · simp [hempty]
  · simp [hempty]

theorem moves_writeAll (io : ChipIo) {ws : List (Nat × UInt8)} (hws : ∀ w ∈ ws, w.1 < 0x30 ∨ 0x60 ≤ w.1)
    (chip : Chip) :
    Chip.Moves chip (writeAll io ws chip) := by
  induction ws generalizing chip with
  | nil => exact .refl
  | cons w ws ih =>
    exact (Chip.moves_writeRegister io chip (hws w List.mem_cons_self) w.2).trans
      (ih (fun w' hw' => hws w' (List.mem_cons_of_mem _ hw')) _)

theorem begin_moves (io : ChipIo) (clockFrequency baudRate : UInt32) (mcp : MCP2515) :
    Chip.Moves (reset mcp.chip) (mcp.begin io clockFrequency baudRate).2.chip := by
  have hmode := (Chip.moves_writeRegister io (reset mcp.chip) (by decide : regCanCtrl < 0x30 ∨ 0x60 ≤ regCanCtrl)
    0x80).trans (Chip.moves_settle io _)
  rw [begin]
  dsimp only
  split
  · exact hmode
  · cases hcnf : cnfMapper.lookup (clockFrequency, baudRate) with
    | none => exact hmode
    | some cnf =>
      have hwrites := (hmode.trans (@moves_writeAll io (beginWrites cnf) (by
        simp [beginWrites, regCnf1, regCnf2, regCnf3, regCanInte, regBfpCtrl, regTxRtsCtrl, regRxBnCtrl,
          regCanCtrl]) _)).trans
        (Chip.moves_settle io _)
      dsimp only
      split
      · exact hwrites
      · exact hwrites

end MCP2515

/-! ## Runs -/

/-- The driver in a run, and the frames for which `endPacket` has returned 1. A call that does not return ends the
run. -/
structure TransmitWatch where
  mcp : MCP2515
  accepted : List WireFrame
  hung : Bool

inductive TransmitEvent
  | begin (call : BeginCall)
  | write (buffer : List UInt8)
  | endPacket (rounds : Nat)
  | flushTx (rounds : Nat)
  /-- Some frames go out between two calls. -/
  | idle (frames : Nat)

namespace TransmitWatch

open MCP2515

variable (io : ChipIo)

/-- The driver as `begin` leaves it. -/
def start (regs : Nat → UInt8) (clockFrequency baudRate : UInt32) : TransmitWatch :=
  ⟨((MCP2515.init regs).begin io clockFrequency baudRate).2, [], false⟩

def perform (w : TransmitWatch) : TransmitEvent → TransmitWatch
  | .begin call => { w with mcp := { w.mcp with toCANController := (call.perform w.mcp.toCANController).2 } }
  | .write buffer => { w with mcp := { w.mcp with toCANController := (w.mcp.toCANController.write buffer).2 } }
  | .endPacket rounds =>
    let result := w.mcp.endPacket io rounds
    { mcp := result.2
      accepted := if result.1 = some true then w.accepted ++ [w.mcp.toCANController.txFrame] else w.accepted
      hung := result.1.isNone }
  | .flushTx rounds =>
    let result := MCP2515.flushTx io rounds w.mcp.chip
    { w with mcp := { w.mcp with chip := result.2 }, hung := result.1.isNone }
  | .idle frames => { w with mcp := { w.mcp with chip := Chip.carries frames w.mcp.chip } }

def step (w : TransmitWatch) (e : TransmitEvent) : TransmitWatch := if w.hung then w else w.perform io e

abbrev run : TransmitWatch → List TransmitEvent → TransmitWatch := Machine.run (step io)

/-- What the `flushTx` of a call returns, if it makes one and that returns. -/
def flushed (w : TransmitWatch) : TransmitEvent → Option Bool
  | .endPacket rounds =>
    if w.mcp.packetBegun && w.mcp.txBuffersLeft == 0 then (MCP2515.flushTx io rounds w.mcp.chip).1 else none
  | .flushTx rounds => (MCP2515.flushTx io rounds w.mcp.chip).1
  | _ => none

/-- The `k`-th accepted frame is neither on the bus nor waiting any more. -/
def Dropped (w : TransmitWatch) (k : Nat) : Prop := k < w.accepted.length ∧ ¬ w.mcp.chip.Kept k

/-- The frames on the bus are accepted ones, in the order they were accepted; each buffer that waits holds the
accepted frame it was given; and nothing has been written into a buffer that waited. -/
structure InOrder (w : TransmitWatch) : Prop where
  increasing : w.mcp.chip.bus.Pairwise fun p q => p.1 < q.1
  sent : ∀ p ∈ w.mcp.chip.bus, w.accepted[p.1]? = some p.2
  holds : ∀ n < 3, w.mcp.chip.pending n = true → w.accepted[w.mcp.chip.label n]? = some (txFrame w.mcp.chip.regs n)
  undisturbed : w.mcp.chip.disturbed = false

def Queued (w : TransmitWatch) : Prop := w.mcp.chip.Queue w.mcp.txBuffersLeft w.accepted

theorem queued_start (regs : Nat → UInt8) (clockFrequency baudRate : UInt32) :
    Queued (start io regs clockFrequency baudRate) :=
  (queue_reset rfl rfl rfl _).moves (begin_moves io clockFrequency baudRate (MCP2515.init regs))

variable {io}

theorem queued_endPacket (rounds : Nat) {w : TransmitWatch} (h : w.Queued) :
    (w.perform io (.endPacket rounds)).Queued ∧
      (w.flushed io (.endPacket rounds) ≠ some false → ∀ k, (w.perform io (.endPacket rounds)).Dropped k →
        w.Dropped k) := by
  have hflushed := flushTx_flushed io rounds w.mcp.chip
  have hclosed : w.mcp.packetBegun = true → w.mcp.closed.txLength = w.mcp.closed.txDlc ∧
      w.mcp.closed.toCANController.txFrame = w.mcp.toCANController.txFrame := by
    intro hbegun
    simp [MCP2515.closed, CANController.endPacket, hbegun, CANController.txFrame]
  have hended := w.mcp.endPacket_ended io rounds
  simp only [perform, flushed, Queued, Dropped] at h ⊢
  generalize w.mcp.endPacket io rounds = result at hended ⊢
  cases hended with
  | notBegun hbegun => exact ⟨h, fun _ _ hk => hk⟩
  | waiting hbegun hleft hflush =>
    refine ⟨hflushed.queue h, ?_⟩
    rw [hbegun, hleft]
    exact fun hanswer k hk => ⟨hk.1, fun hkept => hk.2 (hflushed.kept hanswer hkept)⟩
  | timedOut hbegun hleft hflush =>
    refine ⟨hflushed.queue h, ?_⟩
    rw [hbegun, hleft]
    exact fun hanswer k hk => ⟨hk.1, fun hkept => hk.2 (hflushed.kept hanswer hkept)⟩
  | drained hbegun hleft hflush =>
    obtain ⟨hlength, hframe⟩ := hclosed hbegun
    have hready : (MCP2515.flushTx io rounds w.mcp.chip).2.Queue (txBufferCount - 1 + 1) w.accepted := by
      have hafter := hflushed.queue h
      generalize MCP2515.flushTx io rounds w.mcp.chip = answer at hflushed hflush hafter ⊢
      cases hflushed with
      | waiting _ => cases hflush
      | drained _ hnone => exact hafter.drained hnone _
      | timedOut _ _ _ => cases hflush
    have hloaded := hready.load io (by decide) hlength
    rw [hframe] at hloaded
    refine ⟨hloaded.1, fun _ k hk => ?_⟩
    by_contra hnot
    refine hk.2 (hloaded.2 k (fun hold => hflushed.kept (by rw [hflush]; decide) ?_) hk.1)
    by_contra hgone
    exact hnot ⟨hold, hgone⟩
  | next hbegun hleft =>
    obtain ⟨hlength, hframe⟩ := hclosed hbegun
    have hready : w.mcp.chip.Queue (w.mcp.txBuffersLeft - 1 + 1) w.accepted := h.lower (by omega)
    have hloaded := hready.load io (w.mcp.left_lt hleft) hlength
    rw [hframe] at hloaded
    refine ⟨hloaded.1, fun _ k hk => ?_⟩
    by_contra hnot
    refine hk.2 (hloaded.2 k (fun hold => ?_) hk.1)
    by_contra hgone
    exact hnot ⟨hold, hgone⟩

theorem queued_step (w : TransmitWatch) (e : TransmitEvent) (h : w.Queued) :
    (step io w e).Queued ∧ (w.flushed io e ≠ some false → ∀ k, (step io w e).Dropped k → w.Dropped k) := by
  rw [step]
  split
  · exact ⟨h, fun _ _ hk => hk⟩
  · cases e with
    | begin call => exact ⟨h, fun _ _ hk => hk⟩
    | write buffer => exact ⟨h, fun _ _ hk => hk⟩
    | endPacket rounds => exact queued_endPacket rounds h
    | flushTx rounds =>
      have hflushed := flushTx_flushed io rounds w.mcp.chip
      exact ⟨hflushed.queue h, fun hanswer k hk => ⟨hk.1, fun hkept => hk.2 (hflushed.kept hanswer hkept)⟩⟩
    | idle frames =>
      have hmoves := Chip.moves_carries frames w.mcp.chip
      exact ⟨h.moves hmoves, fun _ k hk => ⟨hk.1, fun hkept => hk.2 (hmoves.kept hkept)⟩⟩

theorem queued_run {w : TransmitWatch} (h : w.Queued) (es : List TransmitEvent) : (run io w es).Queued :=
  Machine.run_inv_all (fun w e hw => (queued_step w e hw).1) es h

/-- In every run from `begin` the bus has seen accepted frames only, in the order in which they were accepted, and
no buffer has been written while it waited; a frame that was accepted and is gone without having been on the bus
was taken back by a `flushTx` that returned false. -/
theorem transmits_in_order (io : ChipIo) (regs : Nat → UInt8) (clockFrequency baudRate : UInt32)
    (es : List TransmitEvent) :
    (run io (start io regs clockFrequency baudRate) es).InOrder ∧
      ∀ e k, (step io (run io (start io regs clockFrequency baudRate) es) e).Dropped k →
        (run io (start io regs clockFrequency baudRate) es).Dropped k ∨
          (run io (start io regs clockFrequency baudRate) es).flushed io e = some false := by
  have hqueued : (run io (start io regs clockFrequency baudRate) es).Queued :=
    queued_run (queued_start io regs clockFrequency baudRate) es
  refine ⟨⟨hqueued.increasing, hqueued.sent, hqueued.holds, hqueued.undisturbed⟩, ?_⟩
  intro e k hdropped
  by_contra hneither
  obtain ⟨hkept, hanswer⟩ := not_or.mp hneither
  exact hkept ((queued_step _ e hqueued).2 hanswer k hdropped)

end TransmitWatch

end CanSystems
