import CanSystems.CanCommissioner
import CanSystems.Lib.Machine
import CanSystems.Lib.Printf

/-!
# The nodes that wait for an address

The gateway has room for four of them. One scan of the table finds where an
announcement goes: the node's own slot, or the first that is free, or the one
heard from longest ago. Next to the table stand all announcements so far, the
latest first.
-/

namespace CanSystems

namespace CanCommissioner

/-! ## The list that is sent -/

def listBufSize : ℕ := 224

def fmtListHead : String := "\x7b\"waiting\":["

def fmtListEntry : String := "%s\x7b\"uid\":\"%s\",\"at\":%hu\x7d"

def fmtListTail : String := "]\x7d"

def formatUid (uid : Uid) : Printf.Text :=
  uid.toList.flatMap fun byte => (Printf.snprintf 3 (Printf.format "%02x".toList [.number byte.toNat])).2

/-- The loop over the table; what is written so far is all of `buffer`. -/
def formatEntries : List Waiting → Bool → Printf.Text → Option Printf.Text
  | [], _, buffer => some buffer
  | entry :: rest, first, buffer =>
    if entry.inUse = false then formatEntries rest first buffer else
    let added := Printf.format fmtListEntry.toList
      [.text (if first then [] else [',']), .text (formatUid entry.uid), .number entry.provisionalId.toNat]
    if Printf.overflows (listBufSize - buffer.length) added then none else
    formatEntries rest false (buffer ++ (Printf.snprintf (listBufSize - buffer.length) added).2)

def formatWaiting (c : CanCommissioner) : Option Printf.Text :=
  let head := Printf.snprintf listBufSize (Printf.format fmtListHead.toList [])
  if head.1 < 0 then none else
  match formatEntries c.waiting.toList true head.2 with
  | none => none
  | some buffer =>
    let tail := Printf.format fmtListTail.toList []
    if Printf.overflows (listBufSize - buffer.length) tail then none else
    some (buffer ++ (Printf.snprintf (listBufSize - buffer.length) tail).2)

def entryText (entry : Waiting) : Printf.Text :=
  "\x7b\"uid\":\"".toList ++ entry.uid.toList.flatMap (fun byte => Printf.hex 2 byte.toNat) ++
    "\",\"at\":".toList ++
    Printf.decimal entry.provisionalId.toNat ++ "\x7d".toList

def listText (entries : List Waiting) : Printf.Text :=
  "\x7b\"waiting\":[".toList ++ [','].intercalate (entries.map entryText) ++ "]\x7d".toList

theorem format_byte (byte : UInt8) :
    Printf.format "%02x".toList [.number byte.toNat] = Printf.hex 2 byte.toNat := by
  change Printf.hex 2 byte.toNat ++ [] = _
  rw [List.append_nil]

theorem length_hex_byte (byte : UInt8) : (Printf.hex 2 byte.toNat).length = 2 :=
  Printf.length_hex (by decide) byte.toNat_lt

theorem formatUid_eq (uid : Uid) : formatUid uid = uid.toList.flatMap fun byte => Printf.hex 2 byte.toNat := by
  unfold formatUid
  congr
  funext byte
  rw [format_byte]
  apply Printf.snprintf_of_lt
  rw [length_hex_byte]
  decide

theorem length_formatUid (uid : Uid) : (formatUid uid).length = 16 := by
  have hbytes : ∀ bytes : List UInt8,
      (bytes.flatMap fun byte => Printf.hex 2 byte.toNat).length = 2 * bytes.length := by
    intro bytes
    induction bytes with
    | nil => rfl
    | cons byte bytes ih =>
      rw [List.flatMap_cons, List.length_append, ih, length_hex_byte, List.length_cons]
      omega
  rw [formatUid_eq, hbytes, Vector.length_toList]

theorem format_entry (lead : Printf.Text) (entry : Waiting) :
    Printf.format fmtListEntry.toList [.text lead, .text (formatUid entry.uid), .number entry.provisionalId.toNat] =
      lead ++ entryText entry := by
  delta entryText
  simp [fmtListEntry, formatUid_eq]

theorem length_entryText_le (entry : Waiting) : (entryText entry).length ≤ 37 := by
  have huid := length_formatUid entry.uid
  rw [formatUid_eq] at huid
  have hat := @Printf.length_decimal_le entry.provisionalId.toNat 5 (by decide)
    (Nat.lt_trans entry.provisionalId.toNat_lt (by decide))
  delta entryText
  simp only [List.length_append, huid, String.reduceToList, List.length_cons, List.length_nil]
  omega

/-- What the loop adds for some nodes; only the first of the whole list has no comma before it. -/
def addedText : Bool → List Waiting → Printf.Text
  | _, [] => []
  | first, entry :: rest => (if first then [] else [',']) ++ entryText entry ++ addedText false rest

theorem length_addedText_le (first : Bool) (entries : List Waiting) :
    (addedText first entries).length ≤ 38 * entries.length := by
  induction entries generalizing first with
  | nil => exact Nat.le_refl 0
  | cons entry rest ih =>
    have hlead : (if first then [] else [',']).length ≤ 1 := by cases first <;> decide
    have hentry := length_entryText_le entry
    have hrest := ih false
    rw [addedText, List.length_append, List.length_append, List.length_cons]
    omega

theorem addedText_true (entries : List Waiting) :
    addedText true entries = [','].intercalate (entries.map entryText) := by
  cases entries with
  | nil => rfl
  | cons entry rest =>
    rw [addedText, if_pos rfl, List.nil_append]
    induction rest generalizing entry with
    | nil => simp [addedText, List.intercalate]
    | cons next rest ih =>
      rw [addedText, if_neg Bool.false_ne_true, List.append_assoc, ih next, List.map_cons, List.map_cons]
      simp [List.intercalate]

theorem formatEntries_eq {entries : List Waiting} {first : Bool} {buffer : Printf.Text}
    (h : buffer.length + 38 * entries.length < listBufSize) :
    formatEntries entries first buffer = some (buffer ++ addedText first (entries.filter (·.inUse))) := by
  induction entries generalizing first buffer with
  | nil => simp [formatEntries, addedText]
  | cons entry rest ih =>
    rw [List.length_cons] at h
    rw [formatEntries]
    by_cases huse : entry.inUse = false
    · rw [if_pos huse, ih (by omega), List.filter_cons_of_neg (by simp [huse])]
    have hadded : ((if first then [] else [',']) ++ entryText entry).length ≤ 38 := by
      have hlead : (if first then [] else [',']).length ≤ 1 := by cases first <;> decide
      have hentry := length_entryText_le entry
      rw [List.length_append]
      omega
    have hfits : ((if first then [] else [',']) ++ entryText entry).length < listBufSize - buffer.length := by omega
    have hroom : listBufSize - buffer.length ≤ 2147483648 := Nat.le_trans (Nat.sub_le _ _) (by decide)
    rw [if_neg huse, format_entry, if_neg (by simp [(Printf.overflows_eq_false hroom).mpr hfits]),
      Printf.snprintf_of_lt hfits, ih (by rw [List.length_append]; omega),
      List.filter_cons_of_pos (by simpa using huse), addedText, List.append_assoc]

/-- With a head and a tail of these lengths there is room for four nodes between them. -/
theorem listText_fits {head tail : Printf.Text} (hhead : head.length = 12) (htail : tail.length = 2)
    (entries : Vector Waiting 4) :
    head.length + 38 * entries.toList.length < listBufSize ∧
    tail.length < listBufSize - (head ++ addedText true (entries.toList.filter (·.inUse))).length := by
  have hadded := length_addedText_le true (entries.toList.filter (·.inUse))
  have hfilter := List.length_filter_le (·.inUse) entries.toList
  rw [Vector.length_toList] at hfilter
  rw [List.length_append, Vector.length_toList, listBufSize]
  omega

theorem formatWaiting_eq (c : CanCommissioner) :
    c.formatWaiting = some (listText (c.waiting.toList.filter (·.inUse))) := by
  have hhead : Printf.format fmtListHead.toList [] = "\x7b\"waiting\":[".toList := by simp [fmtListHead]
  have htail : Printf.format fmtListTail.toList [] = "]\x7d".toList := by simp [fmtListTail]
  have hheadLength : "\x7b\"waiting\":[".toList.length = 12 := by decide
  have htailLength : "]\x7d".toList.length = 2 := by decide
  delta listText
  rw [formatWaiting, hhead, htail, ← addedText_true]
  generalize "\x7b\"waiting\":[".toList = head at hheadLength ⊢
  generalize "]\x7d".toList = tail at htailLength ⊢
  obtain ⟨hentries, hfits⟩ := listText_fits hheadLength htailLength c.waiting
  have hcount : ¬ (Printf.snprintf listBufSize head).1 < 0 := by
    rw [Printf.snprintf, Printf.count, hheadLength, if_pos (by decide)]
    exact Int.not_lt.mpr (Int.natCast_nonneg 12)
  have hheadFits : head.length < listBufSize := by
    rw [hheadLength]
    decide
  have hroom : listBufSize - (head ++ addedText true (c.waiting.toList.filter (·.inUse))).length ≤ 2147483648 :=
    Nat.le_trans (Nat.sub_le _ _) (by decide)
  simp only [if_neg hcount, Printf.snprintf_of_lt hheadFits, formatEntries_eq hentries,
    (Printf.overflows_eq_false hroom).mpr hfits, Printf.snprintf_of_lt hfits, Bool.false_eq_true, if_false]

/-! ## The search -/

def entryAt (c : CanCommissioner) (i : Fin 4) : Waiting := c.waiting.get i

def Unknown (c : CanCommissioner) (uid : Uid) : Prop := ∀ i, (c.entryAt i).inUse = true → (c.entryAt i).uid ≠ uid

def silence (c : CanCommissioner) (now : UInt32) (i : Fin 4) : UInt32 :=
  Time.elapsedSince now (c.entryAt i).lastHeard

inductive Found (c : CanCommissioner) (uid : Uid) (now : UInt32) (i : Fin 4) : Prop
  | known : (c.entryAt i).inUse = true → (c.entryAt i).uid = uid → Found c uid now i
  | free : c.Unknown uid → (c.entryAt i).inUse = false → Found c uid now i
  | full : c.Unknown uid → (∀ j, (c.entryAt j).inUse = true) → (∀ j, c.silence now j ≤ c.silence now i) →
      Found c uid now i

structure Scanned (c : CanCommissioner) (uid : Uid) (now : UInt32) (seen : List (Fin 4)) (slot : Option (Fin 4))
    (oldest : Fin 4) : Prop where
  unknown : ∀ i ∈ seen, (c.entryAt i).inUse = true → (c.entryAt i).uid ≠ uid
  free : ∀ i ∈ slot, (c.entryAt i).inUse = false
  full : slot = none → ∀ i ∈ seen, (c.entryAt i).inUse = true
  oldest : ∀ i ∈ seen, c.silence now i ≤ c.silence now oldest

section
variable {c : CanCommissioner} {uid : Uid} {now : UInt32}

theorem findSlot_cons (i : Fin 4) (rest : List (Fin 4)) (slot : Option (Fin 4)) (oldest : Fin 4) :
    c.findSlot uid now (i :: rest) slot oldest =
      if ((c.entryAt i).inUse && (c.entryAt i).uid == uid) = true then i else
      c.findSlot uid now rest (if (c.entryAt i).inUse = true then slot else slot.or (some i))
        (if c.silence now i > c.silence now oldest then i else oldest) := rfl

theorem Scanned.cons {seen : List (Fin 4)} {slot : Option (Fin 4)} {oldest i : Fin 4}
    (h : Scanned c uid now seen slot oldest)
    (hi : (c.entryAt i).inUse = true → (c.entryAt i).uid ≠ uid) :
    Scanned c uid now (i :: seen) (if (c.entryAt i).inUse = true then slot else slot.or (some i))
      (if c.silence now i > c.silence now oldest then i else oldest) := by
  refine ⟨?_, ?_, ?_, ?_⟩
  · intro j hj
    rcases List.mem_cons.mp hj with rfl | hj
    · exact hi
    · exact h.unknown j hj
  · intro j hj
    split at hj
    · exact h.free j hj
    · rename_i huse
      cases slot with
      | none =>
        obtain rfl : i = j := by simpa using hj
        simpa using huse
      | some k => exact h.free j hj
  · intro hnone j hj
    split at hnone
    · rename_i huse
      rcases List.mem_cons.mp hj with rfl | hj
      · exact huse
      · exact h.full hnone j hj
    · cases slot <;> cases hnone
  · intro j hj
    split
    · rename_i hlater
      rcases List.mem_cons.mp hj with rfl | hj
      · exact UInt32.le_refl _
      · exact UInt32.le_trans (h.oldest j hj) (UInt32.le_of_lt hlater)
    · rename_i hearlier
      rcases List.mem_cons.mp hj with rfl | hj
      · exact UInt32.not_lt.mp hearlier
      · exact h.oldest j hj

theorem findSlot_found {rest seen : List (Fin 4)} {slot : Option (Fin 4)} {oldest : Fin 4}
    (h : Scanned c uid now seen slot oldest) (hall : ∀ i, i ∈ seen ∨ i ∈ rest) :
    Found c uid now (c.findSlot uid now rest slot oldest) := by
  induction rest generalizing seen slot oldest with
  | nil =>
    have hseen : ∀ i, i ∈ seen := by
      intro i
      exact (hall i).resolve_right List.not_mem_nil
    have hunknown : c.Unknown uid := fun i => h.unknown i (hseen i)
    cases slot with
    | none => exact .full hunknown (fun i => h.full rfl i (hseen i)) (fun i => h.oldest i (hseen i))
    | some i => exact .free hunknown (h.free i rfl)
  | cons i rest ih =>
    rw [findSlot_cons]
    split
    · rename_i hmatch
      obtain ⟨huse, huid⟩ := Bool.and_eq_true_iff.mp hmatch
      exact .known huse (eq_of_beq huid)
    · rename_i hmatch
      have hi : (c.entryAt i).inUse = true → (c.entryAt i).uid ≠ uid := by
        intro huse huid
        exact hmatch (by rw [huse, huid, beq_self_eq_true, Bool.and_self])
      refine ih (h.cons hi) ?_
      intro j
      rcases hall j with hj | hj
      · exact Or.inl (List.mem_cons_of_mem i hj)
      · rcases List.mem_cons.mp hj with rfl | hj
        · exact Or.inl List.mem_cons_self
        · exact Or.inr hj

theorem noteAnnouncement_ignored {frame : BusFrame}
    (h : ¬ (frame.cmd = .ANNOUNCE ∧ CanIdAssign.isProvisionalId frame.sender = true)) :
    c.noteAnnouncement frame now = c := by
  rw [noteAnnouncement]
  split
  · rfl
  rename_i hcmd
  split
  · rfl
  rename_i hfrom
  exact absurd ⟨not_not.mp hcmd, (Bool.not_eq_false _).mp hfrom⟩ h

theorem noteAnnouncement_found {frame : BusFrame} (hcmd : frame.cmd = .ANNOUNCE)
    (hfrom : CanIdAssign.isProvisionalId frame.sender = true) :
    ∃ i, Found c frame.data now i ∧
      c.noteAnnouncement frame now = ⟨c.waiting.set i ⟨frame.data, frame.sender, now, true⟩ i.isLt⟩ := by
  refine ⟨c.findSlot frame.data now (List.finRange 4) none ⟨0, zero_lt_waiting⟩, ?_, ?_⟩
  · have hstart : Scanned c frame.data now [] none ⟨0, zero_lt_waiting⟩ := by
      refine ⟨?_, ?_, ?_, ?_⟩ <;> intro j hj <;> simp at hj ⊢
    exact findSlot_found hstart fun i => Or.inr (List.mem_finRange i)
  · rw [noteAnnouncement, if_neg (not_not.mpr hcmd), if_neg (by simp [hfrom])]

theorem entryAt_set (i j : Fin 4) (entry : Waiting) :
    entryAt ⟨c.waiting.set i entry i.isLt⟩ j = if j = i then entry else c.entryAt j := by
  change (c.waiting.set i.val entry)[j.val] = if j = i then entry else c.waiting[j.val]
  rw [Vector.getElem_set]
  simp only [Fin.ext_iff, eq_comm]

theorem entryAt_run (i : Fin 4) :
    (c.run now).entryAt i =
      if ((c.entryAt i).inUse && Time.hasElapsed now (c.entryAt i).lastHeard forgetTime) = true then
        { c.entryAt i with inUse := false }
      else c.entryAt i := by
  change (c.run now).waiting[i.val] = _
  rw [run, Vector.getElem_map]
  rfl

theorem run_inUse {i : Fin 4} (h : ((c.run now).entryAt i).inUse = true) :
    (c.run now).entryAt i = c.entryAt i ∧ Time.hasElapsed now (c.entryAt i).lastHeard forgetTime = false := by
  rw [entryAt_run] at h ⊢
  split at h
  · cases h
  rename_i hkept
  rw [h, Bool.true_and, Bool.not_eq_true] at hkept
  exact ⟨if_neg (by rw [h, hkept]; decide), hkept⟩

end

end CanCommissioner

/-! ## Runs -/

structure Announced where
  uid : Uid
  provisionalId : UInt16
  time : UInt32
  deriving DecidableEq, Repr

structure WaitingWatch where
  commissioner : CanCommissioner
  /-- All announcements, the latest first. -/
  heard : List Announced

inductive WaitingEvent
  | announce (frame : BusFrame) (now : UInt32)
  | run (now : UInt32)

namespace WaitingWatch

def Announces (frame : BusFrame) : Prop := frame.cmd = .ANNOUNCE ∧ CanIdAssign.isProvisionalId frame.sender = true

instance (frame : BusFrame) : Decidable (Announces frame) := inferInstanceAs (Decidable (_ ∧ _))

def step (w : WaitingWatch) : WaitingEvent → WaitingWatch
  | .announce frame now =>
    ⟨w.commissioner.noteAnnouncement frame now,
      if Announces frame then ⟨frame.data, frame.sender, now⟩ :: w.heard else w.heard⟩
  | .run now => ⟨w.commissioner.run now, w.heard⟩

def start : WaitingWatch := ⟨.init, []⟩

def latest (w : WaitingWatch) (uid : Uid) : Option Announced := w.heard.find? (·.uid == uid)

def announcedOf (entry : Waiting) : Announced := ⟨entry.uid, entry.provisionalId, entry.lastHeard⟩

structure Kept (w : WaitingWatch) : Prop where
  distinct : ∀ i j, (w.commissioner.entryAt i).inUse = true → (w.commissioner.entryAt j).inUse = true →
    (w.commissioner.entryAt i).uid = (w.commissioner.entryAt j).uid → i = j
  latest : ∀ i, (w.commissioner.entryAt i).inUse = true →
    w.latest (w.commissioner.entryAt i).uid = some (announcedOf (w.commissioner.entryAt i))

theorem kept_start : Kept start := by
  have hfree : ∀ i, (start.commissioner.entryAt i).inUse = false := by decide
  refine ⟨?_, ?_⟩
  · intro i j hi
    simp [hfree i] at hi
  · intro i hi
    simp [hfree i] at hi

theorem Kept.run {w : WaitingWatch} (h : Kept w) (now : UInt32) : Kept (w.step (.run now)) := by
  rw [step]
  refine ⟨?_, ?_⟩
  · intro i j hi hj huid
    dsimp only at hi hj huid
    have hsi := (CanCommissioner.run_inUse hi).1
    have hsj := (CanCommissioner.run_inUse hj).1
    rw [hsi] at hi huid
    rw [hsj] at hj huid
    exact h.distinct i j hi hj huid
  · intro i hi
    dsimp only at hi ⊢
    have hsi := (CanCommissioner.run_inUse hi).1
    rw [hsi] at hi ⊢
    exact h.latest i hi

theorem Kept.other {w : WaitingWatch} (h : Kept w) {uid : Uid} {now : UInt32} {i j : Fin 4}
    (hfound : w.commissioner.Found uid now i) (hj : j ≠ i) (huse : (w.commissioner.entryAt j).inUse = true) :
    (w.commissioner.entryAt j).uid ≠ uid := by
  cases hfound with
  | known huse' huid =>
    intro hsame
    exact hj (h.distinct j i huse huse' (hsame.trans huid.symm))
  | free hunknown _ => exact hunknown j huse
  | full hunknown _ _ => exact hunknown j huse

theorem Kept.announce {w : WaitingWatch} (h : Kept w) (frame : BusFrame) (now : UInt32) :
    Kept (w.step (.announce frame now)) := by
  rw [step]
  by_cases hann : Announces frame
  · rw [if_pos hann]
    obtain ⟨i, hfound, heq⟩ := @CanCommissioner.noteAnnouncement_found w.commissioner now frame hann.1 hann.2
    rw [heq]
    refine ⟨?_, ?_⟩
    · intro j k hj hk huid
      simp only [CanCommissioner.entryAt_set] at hj hk huid
      by_cases hji : j = i
      · by_cases hki : k = i
        · exact hji.trans hki.symm
        · rw [if_pos hji, if_neg hki] at huid
          rw [if_neg hki] at hk
          exact absurd huid.symm (h.other hfound hki hk)
      · rw [if_neg hji] at hj huid
        by_cases hki : k = i
        · rw [if_pos hki] at huid
          exact absurd huid (h.other hfound hji hj)
        · rw [if_neg hki] at hk huid
          exact h.distinct j k hj hk huid
    · intro j hj
      simp only [CanCommissioner.entryAt_set] at hj ⊢
      by_cases hji : j = i
      · rw [if_pos hji]
        exact List.find?_cons_of_pos (beq_self_eq_true frame.data)
      · rw [if_neg hji] at hj ⊢
        have hne := h.other hfound hji hj
        rw [WaitingWatch.latest, List.find?_cons_of_neg (by simpa using fun heq => hne heq.symm)]
        exact h.latest j hj
  · rw [if_neg hann, CanCommissioner.noteAnnouncement_ignored hann]
    exact h

theorem Kept.step {w : WaitingWatch} (e : WaitingEvent) (h : Kept w) : Kept (w.step e) := by
  cases e with
  | announce frame now => exact h.announce frame now
  | run now => exact h.run now

def after (events : List WaitingEvent) : WaitingWatch := Machine.run step start events

theorem kept_after (events : List WaitingEvent) : Kept (after events) :=
  Machine.run_inv_all (fun _ e => Kept.step e) events kept_start

/-- What holds of the table in every run. -/
theorem waiting_table (events : List WaitingEvent) :
    (∀ i j, ((after events).commissioner.entryAt i).inUse = true →
      ((after events).commissioner.entryAt j).inUse = true →
      ((after events).commissioner.entryAt i).uid = ((after events).commissioner.entryAt j).uid → i = j) ∧
    (∀ i, ((after events).commissioner.entryAt i).inUse = true →
      (after events).latest ((after events).commissioner.entryAt i).uid =
        some (announcedOf ((after events).commissioner.entryAt i))) ∧
    (∀ frame now, Announces frame → (after events).commissioner.Unknown frame.data →
      ∃ i : Fin 4, (after events).commissioner.noteAnnouncement frame now =
          ⟨(after events).commissioner.waiting.set i ⟨frame.data, frame.sender, now, true⟩ i.isLt⟩ ∧
        (((after events).commissioner.entryAt i).inUse = true →
          (∀ j, ((after events).commissioner.entryAt j).inUse = true) ∧
          ∀ j, (after events).commissioner.silence now j ≤ (after events).commissioner.silence now i)) ∧
    (∀ now i, (((after events).commissioner.run now).entryAt i).inUse = true →
      Time.hasElapsed now (((after events).commissioner.run now).entryAt i).lastHeard CanCommissioner.forgetTime =
        false) ∧
    (after events).commissioner.formatWaiting =
      some (CanCommissioner.listText ((after events).commissioner.waiting.toList.filter (·.inUse))) := by
  have h := kept_after events
  refine ⟨h.distinct, h.latest, ?_, ?_, CanCommissioner.formatWaiting_eq _⟩
  · intro frame now hann hunknown
    obtain ⟨i, hfound, heq⟩ := @CanCommissioner.noteAnnouncement_found (after events).commissioner now frame hann.1
      hann.2
    refine ⟨i, heq, ?_⟩
    intro huse
    cases hfound with
    | known huse' huid => exact absurd huid (hunknown i huse')
    | free _ hfree => simp [hfree] at huse
    | full _ hall holdest => exact ⟨hall, holdest⟩
  · intro now i hi
    obtain ⟨hsame, hrecent⟩ := CanCommissioner.run_inUse hi
    rw [hsame]
    exact hrecent

end WaitingWatch

end CanSystems
