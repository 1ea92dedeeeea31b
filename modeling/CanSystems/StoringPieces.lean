import CanSystems.DataTransfer
import CanSystems.Lib.Machine

/-!
# A transfer that is being stored

From a `begin` that returned true on, an observer of the `storeBase64` calls notes
the numbers of the accepted pieces and the bytes that reached the storage, and counts
those of a write that came short. Whole pieces and what is left to come make
the size of the file, and a call that refuses its piece leaves everything but the
error alone.
-/

namespace CanSystems

structure StoreCall where
  io : StoreIo
  filePieceNumber : UInt32
  fileData : Option (List UInt8)

structure StoringWatch where
  dt : DataTransfer
  accepted : List UInt32
  /-- The bytes that reached the storage. -/
  written : List UInt8
  /-- How many of them a write left that came short. -/
  cut : Nat

namespace DataTransfer

/-! ## One piece -/

def handed (dt : DataTransfer) (call : StoreCall) : List UInt8 :=
  if dt.transferState = .STORING ∧ call.filePieceNumber = dt.nextFilePieceNumberLocal ∧
    dt.remainingFileSizeLocal ≠ 0 then
    match decodePiece call.fileData with
    | .error _ => []
    | .ok bytes => if UInt32.ofNat bytes.length > dt.remainingFileSizeLocal then [] else bytes
  else []

def writtenBy (dt : DataTransfer) (call : StoreCall) : Nat := (dt.write call.io (dt.handed call)).1

def store (dt : DataTransfer) (call : StoreCall) : StoreResult :=
  dt.storeBase64 call.io call.filePieceNumber call.fileData

theorem write_nil (dt : DataTransfer) (io : StoreIo) : (dt.write io []).1 = 0 := by
  unfold write
  simp only [List.take_nil, List.length_nil]
  split
  · rfl
  split <;> rfl

theorem write_le (dt : DataTransfer) (io : StoreIo) (bytes : List UInt8) :
    (dt.write io bytes).1 ≤ bytes.length := by
  unfold write
  simp only
  split
  · exact List.length_take_le' _ _
  split
  · exact List.length_take_le' _ _
  · exact Nat.zero_le _

theorem writtenBy_of_handed {dt : DataTransfer} {call : StoreCall} (h : dt.handed call = []) :
    dt.writtenBy call = 0 := by
  rw [writtenBy, h]
  exact dt.write_nil call.io

/-- A call refuses its piece and leaves everything but the error alone, or it is the call the transfer waits for:
then the piece is too long, or its write comes short, or it is stored. -/
theorem store_cases (dt : DataTransfer) (call : StoreCall) :
    (dt.handed call = [] ∧ ∃ e, dt.store call = ⟨false, dt.setError e, none, none⟩) ∨
    (dt.transferState = .STORING ∧ dt.handed call = [] ∧
      dt.store call = ⟨false, { dt.setError .RECEIVED_DATA_OVERRUN with transferState := .CLEANUP }, none, none⟩) ∨
    (dt.transferState = .STORING ∧ call.filePieceNumber = dt.nextFilePieceNumberLocal ∧ dt.handed call ≠ [] ∧
      UInt32.ofNat (dt.handed call).length ≤ dt.remainingFileSizeLocal ∧ (dt.handed call).length ≤ 126 ∧
      ((dt.writtenBy call < (dt.handed call).length ∧ ∃ tempFile update err, dt.store call = ⟨false, { dt with
          tempFile := tempFile, update := update, dataTransferErrState := err, transferState := .CLEANUP }, none,
            none⟩) ∨
        (dt.writtenBy call = (dt.handed call).length ∧
          dt.store call = if (dt.stored call.io (dt.handed call)).remainingFileSizeLocal = 0 then
              (dt.stored call.io (dt.handed call)).finalizeTransfer call.io
            else ⟨true, dt.stored call.io (dt.handed call), none, none⟩))) := by
  unfold store storeBase64 handed
  by_cases hstate : dt.transferState = .STORING
  swap
  · exact Or.inl ⟨by simp [hstate], _, if_pos hstate⟩
  rw [if_neg (not_not.mpr hstate)]
  by_cases hnumber : call.filePieceNumber = dt.nextFilePieceNumberLocal
  swap
  · exact Or.inl ⟨by simp [hnumber], _, if_pos hnumber⟩
  rw [if_neg (not_not.mpr hnumber)]
  by_cases hdone : dt.remainingFileSizeLocal = 0
  · exact Or.inl ⟨by simp [hdone], _, if_pos hdone⟩
  rw [if_neg hdone]
  simp only [hstate, hnumber, hdone, ne_eq, not_false_eq_true, and_self, if_true]
  cases hdecode : decodePiece call.fileData with
  | error e => exact Or.inl ⟨rfl, e, rfl⟩
  | ok bytes =>
    right
    obtain ⟨hne, hlen⟩ := decodePiece_ok hdecode
    simp only
    by_cases hroom : UInt32.ofNat bytes.length > dt.remainingFileSizeLocal
    · left
      simp only [hroom, if_true]
      exact ⟨trivial, trivial, if_pos hroom⟩
    right
    simp only [hroom, if_false]
    refine ⟨trivial, trivial, hne, UInt32.not_lt.mp hroom, hlen, ?_⟩
    have hhanded : dt.handed call = bytes := by
      simp [handed, hstate, hnumber, hdone, hdecode, hroom]
    unfold writtenBy storePiece
    rw [hhanded, if_neg hroom]
    obtain ⟨n, tempFile, update, hwrite, hwhole, -⟩ := dt.write_spec call.io bytes
    have hle := dt.write_le call.io bytes
    rw [hwrite] at hle ⊢
    simp only at hle ⊢
    by_cases hn : n = bytes.length
    · right
      refine ⟨hn, ?_⟩
      rw [if_neg (not_not.mpr hn)]
      have hstored := @DataTransfer.stored_of_write dt call.io bytes _ _ (hwhole hn hne)
      rw [hstored]
      rfl
    · left
      rw [if_pos hn]
      exact ⟨by omega, tempFile, update, _, rfl⟩

/-- The storage that a whole file is left in takes it over: the updater its image, or the file system the temp
file, which it opens and finds as long as it is. -/
def finishes (dt : DataTransfer) (io : StoreIo) : Bool :=
  if dt.isFwTransfer then io.updateEndOk else io.openOk && io.sizeOff == 0

/-- The last piece: the transfer leaves STORING, successfully where the storage takes the file over. -/
theorem finalizeTransfer_spec (dt : DataTransfer) (io : StoreIo)
    (hfile : dt.isFwTransfer = false → ∃ bytes, dt.tempFile = some bytes ∧
      UInt32.ofNat bytes.length = dt.fileSizeLocal) :
    ((dt.finalizeTransfer io).dt.transferState = .CLEANUP ∨
        ((dt.finalizeTransfer io).dt.transferState = .CHECK ∧ (dt.finalizeTransfer io).ok = true)) ∧
      (dt.finalizeTransfer io).dt.remainingFileSizeLocal = dt.remainingFileSizeLocal ∧
      (dt.finalizeTransfer io).dt.fileSizeLocal = dt.fileSizeLocal ∧
      (dt.finalizeTransfer io).ok = dt.finishes io := by
  unfold finalizeTransfer finishes
  by_cases hfw : dt.isFwTransfer = true
  · simp only [if_pos hfw]
    split
    · rename_i hend
      exact ⟨Or.inl rfl, rfl, rfl, hend.symm⟩
    · rename_i hend
      exact ⟨Or.inl rfl, rfl, rfl, by simpa using hend⟩
  · simp only [if_neg hfw]
    obtain ⟨bytes, htemp, hsize⟩ := hfile (by simpa using hfw)
    have hanswer : dt.fileSizeLocal + io.sizeOff = dt.fileSizeLocal ↔ io.sizeOff = 0 :=
      ⟨fun h => UInt32.add_right_inj _ |>.mp (h.trans (UInt32.add_zero _).symm),
        fun h => by rw [h, UInt32.add_zero]⟩
    simp only [htemp, hsize, ne_eq, hanswer]
    split
    · rename_i hopen
      exact ⟨Or.inl rfl, rfl, rfl, by simp [hopen]⟩
    rename_i hopen
    split
    · rename_i hoff
      exact ⟨Or.inl rfl, rfl, rfl, by simp [hoff]⟩
    · rename_i hoff
      exact ⟨Or.inr ⟨rfl, rfl⟩, rfl, rfl, by simpa [not_not.mp hoff] using hopen⟩

end DataTransfer

namespace StoringWatch

/-- After a `begin` that returned true. -/
def start (dt : DataTransfer) : StoringWatch := ⟨dt, [], [], 0⟩

def step (w : StoringWatch) (call : StoreCall) : StoringWatch where
  dt := (w.dt.store call).dt
  accepted := if (w.dt.store call).ok then w.accepted ++ [call.filePieceNumber] else w.accepted
  written := w.written ++ (w.dt.handed call).take (w.dt.writtenBy call)
  cut := w.cut + if w.dt.writtenBy call < (w.dt.handed call).length then w.dt.writtenBy call else 0

def Holds (w : StoringWatch) : Prop :=
  (w.dt.isFwTransfer = true ∧ w.dt.update = some w.written) ∨
    (w.dt.isFwTransfer = false ∧ w.dt.receivedFile = some .w ∧ w.dt.tempFile = some w.written)

/-- What every state after a `begin` that returned true has. -/
structure Inv (w : StoringWatch) : Prop where
  numbers : w.accepted = (List.range w.accepted.length).map UInt32.ofNat
  whole : w.written.length + w.dt.remainingFileSizeLocal.toNat = w.dt.fileSizeLocal.toNat + w.cut
  few : w.accepted.length + w.dt.remainingFileSizeLocal.toNat ≤ w.dt.fileSizeLocal.toNat
  cut : w.cut ≠ 0 → w.dt.transferState = .CLEANUP
  next : w.dt.transferState = .STORING → w.dt.nextFilePieceNumberLocal = UInt32.ofNat w.accepted.length
  left : w.dt.transferState = .STORING → w.dt.remainingFileSizeLocal ≠ 0
  holds : w.dt.transferState = .STORING → w.Holds

theorem inv_start {dt dt' : DataTransfer} {io : BeginIo} {fileInUse : String → Bool} {fileSize : UInt32}
    {fileMd5 : Option (List UInt8)} {fileName : Option String}
    (h : dt.begin io fileInUse fileSize fileMd5 fileName = (true, dt')) : (start dt').Inv := by
  rcases dt.begin_cases io fileInUse fileSize fileMd5 fileName with ⟨e, -, hfail⟩ | ⟨md5, name, hcheck, hbegin⟩
  · rw [hfail] at h
    cases h
  have hsize := (DataTransfer.checkBegin_ok hcheck).1
  have hname := DataTransfer.copyName_of_valid (DataTransfer.checkBegin_ok hcheck).2.2.2.1
  rcases hbegin with ⟨-, dt'', hfail, -⟩ | ⟨-, hown, hok⟩ | ⟨-, hown, hok⟩
  · rw [hfail] at h
    cases h
  · rw [hok] at h
    cases h
    refine ⟨rfl, Nat.zero_add _, Nat.le_of_eq (Nat.zero_add _), fun hno => absurd rfl hno, fun _ => rfl,
      fun _ => hsize, ?_⟩
    intro _
    refine Or.inl ⟨?_, rfl⟩
    show FileName.isOwnFirmwareFileName (DataTransfer.copyName name) = true
    rw [hname, hown]
  · rw [hok] at h
    cases h
    refine ⟨rfl, Nat.zero_add _, Nat.le_of_eq (Nat.zero_add _), fun hno => absurd rfl hno, fun _ => rfl,
      fun _ => hsize, ?_⟩
    intro _
    refine Or.inr ⟨?_, rfl, rfl⟩
    show FileName.isOwnFirmwareFileName (DataTransfer.copyName name) = false
    rw [hname, hown]

theorem Inv.uncut {w : StoringWatch} (h : w.Inv) (hstate : w.dt.transferState = .STORING) : w.cut = 0 := by
  by_contra hno
  exact absurd ((h.cut hno).symm.trans hstate) (by decide)

theorem stored_remaining {dt : DataTransfer} {bytes : List UInt8}
    (hroom : UInt32.ofNat bytes.length ≤ dt.remainingFileSizeLocal)
    (hlen : bytes.length ≤ 126) (io : StoreIo) :
    (dt.stored io bytes).remainingFileSizeLocal.toNat + bytes.length = dt.remainingFileSizeLocal.toNat := by
  have hbytes : (UInt32.ofNat bytes.length).toNat = bytes.length :=
    UInt32.toNat_ofNat_of_lt' (by simp only [UInt32.size]; omega)
  have hle := UInt32.le_iff_toNat_le.mp hroom
  show (dt.remainingFileSizeLocal - UInt32.ofNat bytes.length).toNat + bytes.length = _
  rw [UInt32.toNat_sub_of_le _ _ hroom]
  omega

theorem stored_holds {w : StoringWatch} (h : w.Holds) (io : StoreIo) (bytes : List UInt8) :
    (⟨w.dt.stored io bytes, w.accepted, w.written ++ bytes, w.cut⟩ : StoringWatch).Holds := by
  rcases h with ⟨hfw, himage⟩ | ⟨hfw, hopen, hall⟩
  · refine Or.inl ⟨hfw, ?_⟩
    simp [DataTransfer.stored, hfw, himage]
  · refine Or.inr ⟨hfw, hopen, ?_⟩
    simp [DataTransfer.stored, hfw, hall]

/-- The temp file of a transfer whose last piece is stored is as long as it should be. -/
theorem stored_size {w : StoringWatch} (h : w.Inv) (hstate : w.dt.transferState = .STORING) {io : StoreIo}
    {bytes : List UInt8} (hroom : UInt32.ofNat bytes.length ≤ w.dt.remainingFileSizeLocal)
    (hlen : bytes.length ≤ 126)
    (hlast : (w.dt.stored io bytes).remainingFileSizeLocal = 0) :
    (w.dt.stored io bytes).isFwTransfer = false →
      ∃ all, (w.dt.stored io bytes).tempFile = some all ∧
        UInt32.ofNat all.length = (w.dt.stored io bytes).fileSizeLocal := by
  intro hfw
  rcases stored_holds (h.holds hstate) io bytes with ⟨hyes, -⟩ | ⟨-, -, hall⟩
  · exact absurd (hyes.symm.trans hfw) (by decide)
  refine ⟨w.written ++ bytes, hall, ?_⟩
  have hleft := stored_remaining hroom hlen io
  have hcut := h.uncut hstate
  have hwhole := h.whole
  rw [hlast] at hleft
  have hlength : (w.written ++ bytes).length = w.dt.fileSizeLocal.toNat := by
    have hzero : (0 : UInt32).toNat = 0 := rfl
    rw [List.length_append]
    omega
  rw [hlength]
  exact UInt32.ofNat_toNat

theorem range_succ_map (n : Nat) :
    (List.range n).map UInt32.ofNat ++ [UInt32.ofNat n] = (List.range (n + 1)).map UInt32.ofNat := by
  rw [List.range_succ, List.map_append]
  rfl

section
variable {w : StoringWatch} {call : StoreCall}

theorem inv_short (h : w.Inv) (hshort : w.dt.writtenBy call < (w.dt.handed call).length)
    {tempFile update : Option (List UInt8)}
    {err : UInt32} (hresult : w.dt.store call = ⟨false, { w.dt with
      tempFile := tempFile, update := update, dataTransferErrState := err, transferState := .CLEANUP }, none,
        none⟩) :
    (w.step call).Inv := by
  have hstep : w.step call = ⟨{ w.dt with
      tempFile := tempFile, update := update, dataTransferErrState := err, transferState := .CLEANUP }, w.accepted,
      w.written ++ (w.dt.handed call).take (w.dt.writtenBy call), w.cut + w.dt.writtenBy call⟩ := by
    simp [step, hresult, hshort]
  rw [hstep]
  refine ⟨h.numbers, ?_, h.few, fun _ => rfl, ?_, ?_, ?_⟩
  · have hwhole := h.whole
    show (w.written ++ (w.dt.handed call).take (w.dt.writtenBy call)).length + w.dt.remainingFileSizeLocal.toNat =
      w.dt.fileSizeLocal.toNat + (w.cut + w.dt.writtenBy call)
    rw [List.length_append, List.length_take]
    omega
  all_goals
    intro hs
    cases hs

theorem inv_next (h : w.Inv) (hstate : w.dt.transferState = .STORING)
    (hnumber : call.filePieceNumber = w.dt.nextFilePieceNumberLocal) (hne : w.dt.handed call ≠ [])
    (hroom : UInt32.ofNat (w.dt.handed call).length ≤ w.dt.remainingFileSizeLocal)
    (hlen : (w.dt.handed call).length ≤ 126)
    (hwritten : w.dt.writtenBy call = (w.dt.handed call).length)
    (hmore : (w.dt.stored call.io (w.dt.handed call)).remainingFileSizeLocal ≠ 0)
    (hresult : w.dt.store call = ⟨true, w.dt.stored call.io (w.dt.handed call), none, none⟩) :
    (w.step call).Inv := by
  have hleft := stored_remaining hroom hlen call.io
  have hwhole := h.whole
  have hfew := h.few
  have hcut := h.uncut hstate
  have hnext := hnumber.trans (h.next hstate)
  have hpos := List.length_pos_of_ne_nil hne
  have hstep : w.step call = ⟨w.dt.stored call.io (w.dt.handed call), w.accepted ++ [call.filePieceNumber],
      w.written ++ w.dt.handed call, w.cut⟩ := by
    simp [step, hresult, hwritten]
  rw [hstep]
  refine ⟨?_, ?_, ?_, fun hno => absurd hcut hno, ?_, fun _ => hmore, ?_⟩
  · show w.accepted ++ [call.filePieceNumber] = _
    rw [List.length_append, List.length_singleton, hnext, ← range_succ_map, ← h.numbers]
  · show (w.written ++ w.dt.handed call).length + _ = w.dt.fileSizeLocal.toNat + w.cut
    rw [List.length_append]
    simp only
    omega
  · show (w.accepted ++ [call.filePieceNumber]).length + _ ≤ w.dt.fileSizeLocal.toNat
    rw [List.length_append, List.length_singleton]
    simp only
    omega
  · intro _
    show w.dt.nextFilePieceNumberLocal + 1 = UInt32.ofNat (w.accepted ++ [call.filePieceNumber]).length
    rw [h.next hstate, List.length_append, List.length_singleton, UInt32.ofNat_add]
    rfl
  · intro _
    exact stored_holds (h.holds hstate) call.io (w.dt.handed call)

theorem Inv.finalized (h : w.Inv) (hstate : w.dt.transferState = .STORING)
    (hroom : UInt32.ofNat (w.dt.handed call).length ≤ w.dt.remainingFileSizeLocal)
    (hlen : (w.dt.handed call).length ≤ 126)
    (hlast : (w.dt.stored call.io (w.dt.handed call)).remainingFileSizeLocal = 0)
    (hresult : w.dt.store call = (w.dt.stored call.io (w.dt.handed call)).finalizeTransfer call.io) :
    (w.dt.store call).dt.transferState ≠ .STORING ∧
      ((w.dt.store call).dt.transferState = .CLEANUP ∨ (w.dt.store call).ok = true) ∧
      (w.dt.store call).dt.remainingFileSizeLocal = 0 ∧ (w.dt.store call).dt.fileSizeLocal = w.dt.fileSizeLocal ∧
      (w.dt.store call).ok = w.dt.finishes call.io := by
  obtain ⟨hafter, hremaining, hsize, hok⟩ :=
    DataTransfer.finalizeTransfer_spec _ call.io (stored_size h hstate hroom hlen hlast)
  rw [← hresult] at hafter hremaining hsize hok
  refine ⟨fun hs => ?_, hafter.imp_right And.right, hremaining.trans hlast, hsize, hok⟩
  rcases hafter with hafter | ⟨hafter, -⟩
  · exact absurd (hafter.symm.trans hs) (by decide)
  · exact absurd (hafter.symm.trans hs) (by decide)

theorem inv_last (h : w.Inv) (hstate : w.dt.transferState = .STORING)
    (hnumber : call.filePieceNumber = w.dt.nextFilePieceNumberLocal) (hne : w.dt.handed call ≠ [])
    (hroom : UInt32.ofNat (w.dt.handed call).length ≤ w.dt.remainingFileSizeLocal)
    (hlen : (w.dt.handed call).length ≤ 126)
    (hwritten : w.dt.writtenBy call = (w.dt.handed call).length)
    (hlast : (w.dt.stored call.io (w.dt.handed call)).remainingFileSizeLocal = 0)
    (hresult : w.dt.store call = (w.dt.stored call.io (w.dt.handed call)).finalizeTransfer call.io) :
    (w.step call).Inv := by
  obtain ⟨hgone, -, hremaining, hfile, -⟩ := h.finalized hstate hroom hlen hlast hresult
  have hgone : (w.step call).dt.transferState ≠ .STORING := hgone
  have hfile : (w.step call).dt.fileSizeLocal = w.dt.fileSizeLocal := hfile
  have hleft := stored_remaining hroom hlen call.io
  have hwhole := h.whole
  have hfew := h.few
  have hcut := h.uncut hstate
  have hnext := hnumber.trans (h.next hstate)
  have hpos := List.length_pos_of_ne_nil hne
  have hz : (0 : UInt32).toNat = 0 := rfl
  rw [hlast] at hleft
  have hcut' : (w.step call).cut = 0 := by
    show w.cut + (if w.dt.writtenBy call < (w.dt.handed call).length then w.dt.writtenBy call else 0) = 0
    rw [if_neg (by omega), hcut]
  have hzero : (w.step call).dt.remainingFileSizeLocal.toNat = 0 := by
    show (w.dt.store call).dt.remainingFileSizeLocal.toNat = 0
    rw [hremaining, hz]
  refine ⟨?_, ?_, ?_, fun hno => absurd hcut' hno, fun hs => absurd hs hgone, fun hs => absurd hs hgone,
    fun hs => absurd hs hgone⟩
  · show (if (w.dt.store call).ok then w.accepted ++ [call.filePieceNumber] else w.accepted) = _
    cases hok : (w.dt.store call).ok with
    | true =>
      simp only [step, hok, if_true, List.length_append, List.length_singleton]
      rw [hnext, ← range_succ_map, ← h.numbers]
    | false =>
      simp only [step, hok, Bool.false_eq_true, if_false]
      exact h.numbers
  · rw [hzero, hcut', hfile]
    show (w.written ++ (w.dt.handed call).take (w.dt.writtenBy call)).length + 0 = _
    rw [List.length_append, List.length_take]
    omega
  · rw [hzero, hfile]
    show (if (w.dt.store call).ok then w.accepted ++ [call.filePieceNumber] else w.accepted).length + 0 ≤ _
    split
    · rw [List.length_append, List.length_singleton]
      omega
    · omega

end

theorem inv_step (w : StoringWatch) (call : StoreCall) (h : w.Inv) : (w.step call).Inv := by
  rcases w.dt.store_cases call with ⟨hnone, e, hresult⟩ | ⟨hstate, hnone, hresult⟩ |
    ⟨hstate, hnumber, hne, hroom, hlen, ⟨hshort, tempFile, update, err, hresult⟩ | ⟨hwritten, hresult⟩⟩
  · have hstep : w.step call = { w with dt := w.dt.setError e } := by
      simp [step, hresult, DataTransfer.writtenBy_of_handed hnone]
    rw [hstep]
    exact ⟨h.numbers, h.whole, h.few, h.cut, h.next, h.left, h.holds⟩
  · have hstep : w.step call = { w with dt := { w.dt.setError .RECEIVED_DATA_OVERRUN with transferState := .CLEANUP } } := by
      simp [step, hresult, DataTransfer.writtenBy_of_handed hnone]
    rw [hstep]
    refine ⟨h.numbers, h.whole, h.few, fun _ => rfl, ?_, ?_, ?_⟩
    all_goals
      intro hs
      cases hs
  · exact inv_short h hshort hresult
  · by_cases hlast : (w.dt.stored call.io (w.dt.handed call)).remainingFileSizeLocal = 0
    · rw [if_pos hlast] at hresult
      exact inv_last h hstate hnumber hne hroom hlen hwritten hlast hresult
    · rw [if_neg hlast] at hresult
      exact inv_next h hstate hnumber hne hroom hlen hwritten hlast hresult

structure CallEnds (w : StoringWatch) (call : StoreCall) : Prop where
  /-- An accepted piece is the next one, and the transfer leaves STORING with the last. -/
  accepted : (w.dt.store call).ok = true → w.dt.transferState = .STORING ∧
    call.filePieceNumber = UInt32.ofNat w.accepted.length ∧
    ((w.dt.store call).dt.transferState ≠ .STORING ↔ (w.dt.store call).dt.remainingFileSizeLocal = 0)
  /-- The last piece makes it leave STORING, and is accepted where the storage takes the file over. -/
  last : w.dt.transferState = .STORING → (w.dt.store call).dt.remainingFileSizeLocal = 0 →
    (w.dt.store call).dt.transferState ≠ .STORING ∧ (w.dt.store call).ok = w.dt.finishes call.io
  /-- A refused piece that does not end the transfer leaves everything but the error alone. -/
  refused : (w.dt.store call).ok = false →
    (w.dt.transferState = .STORING ∧ (w.dt.store call).dt.transferState = .CLEANUP) ∨
      (w.dt.writtenBy call = 0 ∧ ∃ e, (w.dt.store call).dt = w.dt.setError e)

theorem Inv.callEnds {w : StoringWatch} (h : w.Inv) (call : StoreCall) : w.CallEnds call := by
  rcases w.dt.store_cases call with ⟨hnone, e, hresult⟩ | ⟨hstate, -, hresult⟩ |
    ⟨hstate, hnumber, hne, hroom, hlen, ⟨-, tempFile, update, err, hresult⟩ | ⟨hwritten, hresult⟩⟩
  · constructor
    case accepted =>
      rw [hresult]
      intro hok
      cases hok
    case last =>
      rw [hresult]
      intro hstate hzero
      exact absurd hzero (h.left hstate)
    case refused =>
      intro _
      right
      rw [hresult]
      exact ⟨DataTransfer.writtenBy_of_handed hnone, e, rfl⟩
  · constructor
    case accepted =>
      rw [hresult]
      intro hok
      cases hok
    case last =>
      rw [hresult]
      intro _ hzero
      exact absurd hzero (h.left hstate)
    case refused =>
      intro _
      rw [hresult]
      exact Or.inl ⟨hstate, rfl⟩
  · constructor
    case accepted =>
      rw [hresult]
      intro hok
      cases hok
    case last =>
      rw [hresult]
      intro _ hzero
      exact absurd hzero (h.left hstate)
    case refused =>
      intro _
      rw [hresult]
      exact Or.inl ⟨hstate, rfl⟩
  · have hnext := hnumber.trans (h.next hstate)
    by_cases hlast : (w.dt.stored call.io (w.dt.handed call)).remainingFileSizeLocal = 0
    · rw [if_pos hlast] at hresult
      obtain ⟨hgone, hafter, hremaining, -, hok⟩ := h.finalized hstate hroom hlen hlast hresult
      constructor
      case accepted => exact fun _ => ⟨hstate, hnext, fun _ => hremaining, fun _ => hgone⟩
      case last => exact fun _ _ => ⟨hgone, hok⟩
      case refused =>
        intro hno
        left
        refine ⟨hstate, hafter.resolve_right fun hyes => ?_⟩
        exact absurd (hno.symm.trans hyes) (by decide)
    · rw [if_neg hlast] at hresult
      constructor
      case accepted =>
        intro _
        refine ⟨hstate, hnext, ?_⟩
        rw [hresult]
        exact ⟨fun hs => absurd hstate hs, fun hzero => absurd hzero hlast⟩
      case last =>
        rw [hresult]
        intro _ hzero
        exact absurd hzero hlast
      case refused =>
        rw [hresult]
        intro hno
        cases hno

/-- From a `begin` that returned true on, the accepted pieces are the first ones in order, whole pieces and what
is left to come make the size of the file, and each further call ends as `CallEnds` says. -/
theorem storing_invariant {dt dt' : DataTransfer} {io : BeginIo} {fileInUse : String → Bool} {fileSize : UInt32}
    {fileMd5 : Option (List UInt8)} {fileName : Option String}
    (h : dt.begin io fileInUse fileSize fileMd5 fileName = (true, dt')) (calls : List StoreCall) :
    let w := Machine.run step (start dt') calls
    w.accepted = (List.range w.accepted.length).map UInt32.ofNat ∧ w.accepted.length ≤ w.dt.fileSizeLocal.toNat ∧
      w.written.length + w.dt.remainingFileSizeLocal.toNat = w.dt.fileSizeLocal.toNat + w.cut ∧
      (w.cut ≠ 0 → w.dt.transferState = .CLEANUP) ∧ (w.dt.transferState = .STORING → w.Holds) ∧
      ∀ call, w.CallEnds call := by
  intro w
  have hinv : w.Inv := Machine.run_inv_all inv_step calls (inv_start h)
  exact ⟨hinv.numbers, Nat.le_trans (Nat.le_add_right _ _) hinv.few, hinv.whole, hinv.cut, hinv.holds,
    hinv.callEnds⟩

def threeBytes : Bool × DataTransfer :=
  (DataTransfer.init none).begin .smooth (fun _ => false) 3 (some md5OfA) (some FileName.canAlertFwLocation)

def abcCall (lost : Nat) : StoreCall := ⟨⟨1, lost, true, true, 0⟩, 0, some (ascii "YWJj")⟩

theorem storing_invariant_three :
    (Machine.run step (start threeBytes.2) [abcCall 0]).written.length = 3 ∧
      (Machine.run step (start threeBytes.2) [abcCall 0]).accepted = [0] := by
  have hbegin : (DataTransfer.init none).begin .smooth (fun _ => false) 3 (some md5OfA)
    (some FileName.canAlertFwLocation) =
      (true, threeBytes.2) := by decide +kernel
  have hrun := storing_invariant hbegin [abcCall 0]
  have hlength : (Machine.run step (start threeBytes.2) [abcCall 0]).accepted.length = 1 := by decide +kernel
  refine ⟨?_, ?_⟩
  · have hwhole := hrun.2.2.1
    rw [show (Machine.run step (start threeBytes.2) [abcCall 0]).dt.remainingFileSizeLocal = 0 by decide +kernel,
      show (Machine.run step (start threeBytes.2) [abcCall 0]).dt.fileSizeLocal = 3 by decide +kernel,
      show (Machine.run step (start threeBytes.2) [abcCall 0]).cut = 0 by decide +kernel] at hwhole
    exact hwhole
  · have hnumbers := hrun.1
    rw [hlength] at hnumbers
    exact hnumbers

/-- The storage takes two of the three bytes: both count as written, and all three as left to come. -/
theorem short_write_counts_twice :
    ¬ ∀ (dt dt' : DataTransfer) (io : BeginIo) (fileInUse : String → Bool) (fileSize : UInt32)
      (fileMd5 : Option (List UInt8))
        (fileName : Option String) (calls : List StoreCall),
          dt.begin io fileInUse fileSize fileMd5 fileName = (true, dt') →
      (Machine.run step (start dt') calls).written.length +
        (Machine.run step (start dt') calls).dt.remainingFileSizeLocal.toNat =
        (Machine.run step (start dt') calls).dt.fileSizeLocal.toNat := by
  intro hclaim
  have hrun := hclaim (.init none) threeBytes.2 .smooth (fun _ => false) 3 (some md5OfA)
    (some FileName.canAlertFwLocation)
    [abcCall 1] (by decide +kernel)
  revert hrun
  decide +kernel

end StoringWatch

end CanSystems
