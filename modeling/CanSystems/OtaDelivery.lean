import CanSystems.CanOta
import CanSystems.StoreProgress

/-!
# An update end to end

The gateway sums its file in chunks, announces it and cuts it into pieces; the
node is fed the frames in that order, with any timely passes in between. On a
fault-free flash every piece is taken and the image ends up in its block.
-/

namespace CanSystems

namespace CanOta

def announceLoop : Nat → CanOta → OtaImageInfo → Pass
  | 0, ota, image => ⟨ota, image, none, none⟩
  | fuel + 1, ota, image =>
    let pass := ota.checksumOrSendStart .smooth image
    if pass.sent.isSome then pass else announceLoop fuel pass.ota pass.image

/-- Checksum passes until OTA_START goes out; a pass that sends nothing reads a byte at least. -/
def announce (ota : CanOta) (image : OtaImageInfo) : Pass := announceLoop (ota.available + 1) ota image

def piecesLoop : Nat → CanOta → OtaImageInfo → List CanFrame
  | 0, _, _ => []
  | fuel + 1, ota, image =>
    let pass := ota.sendNextPiece .smooth image
    match pass.sent with
    | none => []
    | some frame => frame :: piecesLoop fuel pass.ota pass.image

def pieces (ota : CanOta) (image : OtaImageInfo) : List CanFrame := piecesLoop ota.available ota image

/-! ## The announcement -/

theorem readFilePiece_smooth {ota : CanOta} {file : File} (hf : ota.receivedFile = some file) {n : Nat}
    (hn : n ≤ file.available) : ota.readFilePiece .smooth n =
      (some (file.next n), { ota with receivedFile := some { file with pos := file.pos + n } }) := by
  simp [readFilePiece, hf, PassIo.smooth, hn]

structure Announced (data : FileData) (storageNumber : UInt16) (fileSize : UInt32) (frameNumber : Nat)
    (p : Pass) : Prop where
  sent : p.sent = some ⟨.OTA_START, OtaCanFrame.packStart ⟨storageNumber, fileSize, crcOf data.bytes⟩⟩
  file : p.ota.receivedFile = some ⟨data, 0⟩
  frameNumber : p.ota.frameNumber = frameNumber
  crc : p.ota.imageCrc = crcOf data.bytes

theorem checksum_chunk {ota : CanOta} {file : File} (image : OtaImageInfo) (hf : ota.receivedFile = some file)
    (hk : ota.imageCrcKnown = false) (hleft : 0 < ota.available) :
    ota.checksumOrSendStart .smooth image =
      ⟨{ ota with
          receivedFile := some { file with pos := file.pos + min ota.available readBufferSize }
          crc16 := ota.crc16.next (file.next (min ota.available readBufferSize)) }, image, none, none⟩ := by
  have havail : ota.available = file.available := by simp [available, hf]
  unfold checksumOrSendStart
  rw [if_neg (by simp [hk]), if_pos hleft, readFilePiece_smooth hf (by rw [← havail]; exact Nat.min_le_left _ _)]

theorem checksum_done {ota : CanOta} (image : OtaImageInfo) (hk : ota.imageCrcKnown = false)
    (hdone : ota.available = 0) :
    ota.checksumOrSendStart .smooth image =
      sendStart { ota with imageCrc := ota.crc16.get, imageCrcKnown := true } .smooth
        (if ota.sharesImage then ⟨ota.fileSize, ota.crc16.get, true⟩ else image) := by
  unfold checksumOrSendStart
  rw [if_neg (by simp [hk]), if_neg (by omega)]

theorem announceLoop_spec (data : FileData) : ∀ (fuel : Nat) (ota : CanOta) (image : OtaImageInfo) (pos : Nat),
    ota.receivedFile = some ⟨data, pos⟩ → ota.imageCrcKnown = false → pos ≤ data.bytes.length →
    ota.crc16 = Crc16.init.next (data.bytes.take pos) → data.bytes.length - pos < fuel →
    Announced data ota.storageNumber ota.fileSize ota.frameNumber (announceLoop fuel ota image)
  | 0, _, _, _, _, _, _, _, hfuel => absurd hfuel (Nat.not_lt_zero _)
  | fuel + 1, ota, image, pos, hf, hk, hpos, hcrc, hfuel => by
    have havail : ota.available = data.bytes.length - pos := by simp [available, hf, File.available]
    unfold announceLoop
    by_cases hleft : 0 < ota.available
    · have hmove : 0 < min ota.available readBufferSize := by simp only [readBufferSize]; omega
      rw [checksum_chunk image hf hk hleft]
      simp only [Option.isSome_none, Bool.false_eq_true, if_false]
      have hsummed : ota.crc16.next ((⟨data, pos⟩ : File).next (min ota.available readBufferSize)) =
          Crc16.init.next (data.bytes.take (pos + min ota.available readBufferSize)) := by
        rw [hcrc, File.next, ← Crc16.next_append, ← List.take_add]
      exact announceLoop_spec data fuel { ota with
        receivedFile := some ⟨data, pos + min ota.available readBufferSize⟩
        crc16 := ota.crc16.next ((⟨data, pos⟩ : File).next (min ota.available readBufferSize)) }
        image (pos + min ota.available readBufferSize) rfl hk (by omega) hsummed (by omega)
    · have hall : pos = data.bytes.length := by omega
      have hget : ota.crc16.get = crcOf data.bytes := by rw [hcrc, hall, List.take_length, get_next_init]
      rw [checksum_done image hk (by omega)]
      simp only [sendStart, PassIo.smooth, if_true, Option.isSome_some]
      exact ⟨by simp only [hget], by simp only [hf]; rfl, rfl, hget⟩

/-! ## The pieces -/

/-- The pass that sends the piece at `pos`. -/
theorem send_piece {data : FileData} {pos : Nat} {ota : CanOta} (image : OtaImageInfo)
    (hf : ota.receivedFile = some ⟨data, pos⟩) (hframe : ota.frameNumber = pos) (hpos : pos < data.bytes.length) :
    ota.sendNextPiece .smooth image =
      ⟨{ ota with
          receivedFile := some ⟨data, pos + (OTA.pieceAt data.bytes pos).length⟩
          frameNumber := pos + (OTA.pieceAt data.bytes pos).length
          transferState := .WAIT_FOR_ACK }, image,
        some ⟨.OTA_SEND, OtaCanFrame.packSend ⟨OtaCanFrame.padPiece (OTA.pieceAt data.bytes pos), UInt8.ofNat pos⟩⟩,
        none⟩ := by
  have havail : ota.available = data.bytes.length - pos := by simp [available, hf, File.available]
  have hread : (⟨data, pos⟩ : File).next (min ota.available filePieceSize) = OTA.pieceAt data.bytes pos := by
    simp only [File.next, OTA.pieceAt, havail]
    rcases Nat.le_total filePieceSize (data.bytes.length - pos) with h | h
    · rw [Nat.min_eq_right h]; rfl
    · have h7 : data.bytes.length - pos ≤ OTA.fwPieceSize := h
      rw [Nat.min_eq_left h, List.take_of_length_le (by simp), List.take_of_length_le (by simpa using h7)]
  have hmin : min ota.available filePieceSize = (OTA.pieceAt data.bytes pos).length := by
    rw [OTA.length_pieceAt, havail, Nat.min_comm]; rfl
  have hpiece : ota.readFilePiece .smooth (min ota.available filePieceSize) = _ :=
    readFilePiece_smooth hf (by rw [havail]; exact Nat.min_le_left _ _)
  rw [hmin] at hread hpiece
  unfold sendNextPiece
  rw [if_neg (by omega)]
  simp only [hmin, hpiece, hread, hframe]
  exact if_pos rfl

theorem piecesLoop_succ {data : FileData} (fuel : Nat) {pos : Nat} {ota : CanOta} (image : OtaImageInfo)
    (hf : ota.receivedFile = some ⟨data, pos⟩) (hframe : ota.frameNumber = pos) (hpos : pos < data.bytes.length) :
    ∃ next : CanOta, next.receivedFile = some ⟨data, pos + (OTA.pieceAt data.bytes pos).length⟩ ∧
      next.frameNumber = pos + (OTA.pieceAt data.bytes pos).length ∧
      piecesLoop (fuel + 1) ota image =
        ⟨.OTA_SEND, OtaCanFrame.packSend ⟨OtaCanFrame.padPiece (OTA.pieceAt data.bytes pos), UInt8.ofNat pos⟩⟩ ::
          piecesLoop fuel next image := by
  refine ⟨(ota.sendNextPiece .smooth image).ota, ?_, ?_, ?_⟩
  · rw [send_piece image hf hframe hpos]
  · rw [send_piece image hf hframe hpos]
  · simp only [piecesLoop, send_piece image hf hframe hpos]

theorem piecesLoop_done {fuel : Nat} {ota : CanOta} (image : OtaImageInfo) (h : ota.available = 0) :
    piecesLoop fuel ota image = [] := by
  cases fuel with
  | zero => rfl
  | succ fuel => simp [piecesLoop, sendNextPiece, h]

theorem length_piecesLoop {data : FileData} (image : OtaImageInfo) : ∀ (fuel pos : Nat) (ota : CanOta),
    ota.receivedFile = some ⟨data, pos⟩ → ota.frameNumber = pos → data.bytes.length - pos ≤ fuel →
    (piecesLoop fuel ota image).length = (data.bytes.length - pos + 6) / 7
  | fuel, pos, ota, hf, hframe, hfuel => by
    by_cases hpos : pos < data.bytes.length
    · match fuel with
      | 0 => omega
      | fuel + 1 =>
        obtain ⟨next, hf', hframe', hpieces⟩ := piecesLoop_succ fuel image hf hframe hpos
        have hlen : (OTA.pieceAt data.bytes pos).length = _ := OTA.length_pieceAt pos
        simp only [OTA.fwPieceSize] at hlen
        rw [hpieces, List.length_cons, length_piecesLoop image fuel _ next hf' hframe' (by omega), hlen]
        omega
    · have hempty : ota.available = 0 := by simp [available, hf, File.available]; omega
      rw [piecesLoop_done image hempty, List.length_nil]
      omega

end CanOta

/-! ## The node's timetable -/

/-- When the node's passes and pieces come: the passes that find the chip erasing, the
one that finds it ready, the pieces, and the passes before each. -/
structure Timetable where
  started : UInt32
  erasing : List UInt32
  erased : UInt32
  arrival : Nat → UInt32
  passes : Nat → List UInt32

namespace Timetable

/-- What the stall timer was last set to before piece `i`. -/
def stamp (tt : Timetable) : Nat → UInt32
  | 0 => tt.started
  | i + 1 => tt.arrival i

def inTime (t since : UInt32) : Prop := Time.hasElapsed t since OTA.stallTimeoutTime = false

/-- No pass of a transfer of `n` pieces comes after the stall timeout. -/
structure Timely (tt : Timetable) (n : Nat) : Prop where
  erasing : ∀ t ∈ tt.erasing, inTime t tt.started
  erased : inTime tt.erased tt.started
  passes : ∀ i < n, ∀ t ∈ tt.passes i, inTime t (tt.stamp i)

end Timetable

namespace OTA

def passes (ota : OTA) (ts : List UInt32) : OTA := ts.foldl run ota

def receiveStart (ota : OTA) (now : UInt32) (frame : CanFrame) : Bool × OTA :=
  let fields := OtaCanFrame.unpackStart frame.data
  ota.start now fields.storageNumber fields.fwSize fields.fwCrc

def receiveSend (ota : OTA) (now : UInt32) (frame : CanFrame) : Bool × OTA :=
  let fields := OtaCanFrame.unpackSend frame.data
  ota.storeNextData now fields.sequence fields.data

/-- Feed the pieces, each after the passes that precede it; whether all were taken. -/
def feed (tt : Timetable) : Nat → OTA → List CanFrame → Bool × OTA
  | _, ota, [] => (true, ota)
  | i, ota, frame :: frames =>
    let (ok, ota) := (ota.passes (tt.passes i)).receiveSend (tt.arrival i) frame
    let (rest, ota) := feed tt (i + 1) ota frames
    (ok && rest, ota)

/-! ## The erase -/

/-- Refusals only while an erase that `polls` polls see is running. -/
def eraseOf (polls : Nat) (n : Nat) : Bool := decide (n < 3 ∨ 3 + polls ≤ n)

variable {image : List UInt8} {b : Nat}

/-- The chip is erasing for `polls` more polls. -/
structure Erasing (image : List UInt8) (b polls : Nat) (t : UInt32) (ota : OTA) : Prop where
  state : ota.otaState = .START
  placed : ota.Placed
  size : ota.fwSize = image.length
  crc : ota.fwCrc = crcOf image
  block : ota.flashBlockBeginAddress = b
  cursor : ota.flashPointer = 0
  mem : ota.flash.mem = Nor.erased
  ready : ∀ n, ota.flash.ready n = decide (polls ≤ n)
  timer : ota.stallTimer = t

theorem Erasing.passes : ∀ (ts : List UInt32) {t : UInt32} {ota : OTA}, Erasing image b ts.length t ota →
    (∀ u ∈ ts, Timetable.inTime u t) → Erasing image b 0 t (ota.passes ts)
  | [], _, _, h, _ => h
  | u :: ts, t, ota, h, hin => by
    have hnot : ota.stalled u = false := by
      have := hin u List.mem_cons_self
      simp only [Timetable.inTime] at this
      simp [stalled, h.timer, this]
    have hbusy : ota.run u = { ota with flash := ota.flash.busy.2 } := by
      have hb : ota.flash.busy.1 = true := by simp [SPIFlash.busy, SPIFlash.waitUntilReady, h.ready 0]
      unfold run
      simp only [hnot, h.state, Bool.false_eq_true, if_false]
      rw [if_pos hb]
    have hnext : Erasing image b ts.length t (ota.run u) := by
      rw [hbusy]
      refine ⟨h.state, ⟨h.placed.aligned, h.placed.fits⟩, h.size, h.crc, h.block, h.cursor, h.mem, fun n => ?_,
        h.timer⟩
      simp only [SPIFlash.busy, SPIFlash.waitUntilReady, h.ready, List.length_cons]
      congr 1
      exact propext (by omega)
    exact Erasing.passes ts hnext fun v hv => hin v (List.mem_cons_of_mem _ hv)

theorem Erasing.ready_run {t now : UInt32} {ota : OTA} (h : Erasing image b 0 t ota)
    (hin : Timetable.inTime now t) :
    Stored image b 0 t (ota.run now) := by
  have hnot : ota.stalled now = false := by
    simp only [Timetable.inTime] at hin
    simp [stalled, h.timer, hin]
  have hb : ota.flash.busy.1 = false := by simp [SPIFlash.busy, SPIFlash.waitUntilReady, h.ready 0]
  have hrun : ota.run now = { ota with flash := ota.flash.busy.2, otaState := .STORE } := by
    unfold run
    simp only [hnot, h.state, Bool.false_eq_true, if_false]
    rw [if_neg (by simp [hb])]
  rw [hrun]
  refine ⟨rfl, ⟨h.placed.aligned, h.placed.fits⟩, h.size, h.crc, h.block, h.cursor, Nat.zero_le _,
    fun _ _ hi => absurd hi (Nat.not_lt_zero _), ?_, fun n => ?_, h.timer⟩
  · simp only [SPIFlash.busy, SPIFlash.waitUntilReady, h.mem, List.take_zero, List.drop_nil, Nor.write_nil]
  · simp [SPIFlash.busy, SPIFlash.waitUntilReady, h.ready]

theorem start_granted {ota : OTA} {polls : Nat} (hready : ∀ n, ota.flash.ready n = eraseOf polls n)
    (hcode : 1 ≤ ota.flash.densityCode.toNat ∧ ota.flash.densityCode.toNat ≤ 24) (hpos : image ≠ [])
    (hsize : image.length ≤ programMemorySize) {block : UInt16}
    (hfit : block.toNat * flashBlockTobytes + image.length ≤ 2 ^ ota.flash.densityCode.toNat) (now : UInt32) :
    ∃ started, ota.start now block (UInt32.ofNat image.length) (crcOf image) = (true, started) ∧
      Erasing image (block.toNat * flashBlockTobytes) polls now started := by
  have hblock := block.toNat_lt
  have hlen : 0 < image.length := List.length_pos_iff.mpr hpos
  have hnat : (UInt32.ofNat image.length).toNat = image.length := by
    simp only [programMemorySize] at hsize
    simp; omega
  have hsum : (block.toUInt32 * UInt32.ofNat flashBlockTobytes + UInt32.ofNat image.length).toNat =
      block.toNat * flashBlockTobytes + image.length := by
    simp only [UInt32.toNat_add, UInt32.toNat_mul, UInt16.toNat_toUInt32, hnat, UInt32.toNat_ofNat',
      flashBlockTobytes, programMemorySize] at *
    omega
  have h0 : ota.flash.ready 0 = true := by rw [hready]; rfl
  have h1 : ota.flash.ready 1 = true := by rw [hready]; rfl
  have h2 : ota.flash.ready 2 = true := by rw [hready]; rfl
  have hcap : ota.flash.capacity =
      (2 ^ ota.flash.densityCode.toNat, { ota.flash with ready := fun n => ota.flash.ready (n + 1) }) := by
    have hne : ¬ (ota.flash.densityCode = 0 ∨ 32 ≤ ota.flash.densityCode) := by
      rintro (e | e)
      · rw [e] at hcode; simp at hcode
      · have := UInt8.le_iff_toNat_le.mp e
        simp at this; omega
    simp [SPIFlash.capacity, SPIFlash.command, SPIFlash.waitUntilReady, h0, hne]
  unfold start
  rw [if_neg (by intro e; rw [e] at hnat; simp at hnat; omega), if_neg (by rw [hnat]; omega), hcap]
  simp only [hsum]
  rw [if_neg (by omega)]
  simp only [SPIFlash.chipErase, SPIFlash.command, SPIFlash.waitUntilReady, h1, h2, if_true]
  refine ⟨_, rfl, rfl, ⟨Nat.mul_mod_left _ _, by rw [hnat]; exact hsize⟩, hnat, rfl, rfl, rfl, rfl, fun n => ?_,
    rfl⟩
  simp only [hready, eraseOf]
  congr 1
  exact propext (by omega)

/-! ## The feed -/

theorem Stored.passes {p : Nat} {t : UInt32} {ota : OTA} (h : Stored image b p t ota) (hp : p < image.length) :
    ∀ ts : List UInt32, (∀ u ∈ ts, Timetable.inTime u t) → ota.passes ts = ota
  | [], _ => rfl
  | u :: ts, hin => by
    have hstep : ota.run u = ota := h.run hp (hin u List.mem_cons_self)
    simp only [OTA.passes, List.foldl_cons, hstep]
    exact h.passes hp ts fun v hv => hin v (List.mem_cons_of_mem _ hv)

theorem Stored.feed {data : FileData} (tt : Timetable) : ∀ (fuel i p : Nat) (ota : OTA) (gateway : CanOta)
    (image : OtaImageInfo),
    Stored data.bytes b p (tt.stamp i) ota → gateway.receivedFile = some ⟨data, p⟩ → gateway.frameNumber = p →
    data.bytes.length - p ≤ fuel →
    (∀ j < i + (CanOta.piecesLoop fuel gateway image).length, ∀ t ∈ tt.passes j, Timetable.inTime t (tt.stamp j)) →
    ∃ stored, OTA.feed tt i ota (CanOta.piecesLoop fuel gateway image) = (true, stored) ∧
      Stored data.bytes b data.bytes.length
        (tt.stamp (i + (CanOta.piecesLoop fuel gateway image).length)) stored := by
  intro fuel
  induction fuel with
  | zero =>
    intro i p ota gateway image h hfile hframe hfuel hin
    have hle := h.le
    have hdone : p = data.bytes.length := by omega
    have hempty : gateway.available = 0 := by simp [CanOta.available, hfile, File.available, hdone]
    rw [CanOta.piecesLoop_done image hempty]
    exact ⟨ota, rfl, by simpa [hdone] using h⟩
  | succ fuel ih =>
    intro i p ota gateway image h hfile hframe hfuel hin
    by_cases hdone : p = data.bytes.length
    · have hempty : gateway.available = 0 := by simp [CanOta.available, hfile, File.available, hdone]
      rw [CanOta.piecesLoop_done image hempty]
      exact ⟨ota, rfl, by simpa [hdone] using h⟩
    · have hle := h.le
      have hp : p < data.bytes.length := by omega
      obtain ⟨next, hfile', hframe', hpieces⟩ := CanOta.piecesLoop_succ fuel image hfile hframe hp
      have hpositive : 0 < (pieceAt data.bytes p).length := by
        rw [length_pieceAt]; simp only [fwPieceSize]; omega
      rw [hpieces] at hin ⊢
      obtain ⟨taken, hstore, hstored⟩ := h.storeNextData hp (tt.arrival i)
      obtain ⟨stored, hrest, hend⟩ := ih (i + 1) _ taken next image hstored hfile' hframe' (by omega)
        fun j hj => hin j (by simp only [List.length_cons]; omega)
      have hquiet := h.passes hp (tt.passes i) (hin i (by simp))
      refine ⟨stored, ?_, ?_⟩
      · simp only [OTA.feed, hquiet, receiveSend, OtaCanFrame.unpackSend_packSend, hstore, hrest, Bool.and_self]
      · rwa [List.length_cons, Nat.add_comm _ 1, ← Nat.add_assoc]

end OTA

/-! ## Both ends -/

/-- The pass of the gateway that announces `name`, from an idle gateway. -/
def CanOta.announcement (gateway : CanOta) (now : UInt32) (fs : LittleFS) (name : String) (block : UInt16) : Pass :=
  ((gateway.startOta now fs (some name) block none).2).announce .empty

theorem CanOta.announcement_spec {gateway : CanOta} (hidle : gateway.transferState = .IDLE) (now : UInt32)
    {fs : LittleFS} {name : String} (hname : name.toList.head? = some '/') {data : FileData}
    (hfile : fs name = some data)
    (hpos : data.bytes ≠ []) (block : UInt16) :
    Announced data block (UInt32.ofNat data.bytes.length) 0 (gateway.announcement now fs name block) := by
  have hlen : 0 < data.bytes.length := List.length_pos_iff.mpr hpos
  have hne : (⟨data, 0⟩ : File).size ≠ 0 := by
    intro e
    have hfits := data.fits
    have := congrArg UInt32.toNat e
    simp only [File.size, UInt32.toNat_ofNat', UInt32.toNat_zero] at this
    omega
  have hstart : gateway.startOta now fs (some name) block none =
      (0, { gateway with
        receivedFile := some ⟨data, 0⟩, fileSize := UInt32.ofNat data.bytes.length, frameNumber := 0,
        storageNumber := block, transferState := .START, crc16 := Crc16.init, sharesImage := false,
        imageCrcKnown := false, imageCrc := 0, otaTimeoutTimer := now, fileNamePtr := some name }) := by
    unfold startOta
    rw [if_neg (by simp [isOtaInProgress, hidle])]
    simp only [hname, hfile, ne_eq, not_true_eq_false, if_false, hne]
    rfl
  unfold announcement
  rw [hstart]
  have hsummed : (Crc16.init : ImageCrc) = Crc16.init.next (data.bytes.take 0) := by simp
  exact announceLoop_spec data _ { gateway with
    receivedFile := some ⟨data, 0⟩, fileSize := UInt32.ofNat data.bytes.length, frameNumber := 0,
    storageNumber := block, transferState := .START, crc16 := Crc16.init, sharesImage := false,
    imageCrcKnown := false, imageCrc := 0, otaTimeoutTimer := now, fileNamePtr := some name } .empty 0 rfl rfl
    (Nat.zero_le _) hsummed (by simp [available, File.available])

/-- For every image that fits the store, a fault-free flash with any contents, any erase time
and any timely passes: the frames the gateway builds for the file are all taken by the node,
which after finitely many further passes is VALID and has the image in its block. -/
theorem image_delivered {gateway : CanOta} (hidle : gateway.transferState = .IDLE) (now : UInt32) {fs : LittleFS}
    {name : String} (hname : name.toList.head? = some '/') {data : FileData} (hfile : fs name = some data)
    (hpos : data.bytes ≠ []) (hsize : data.bytes.length ≤ OTA.programMemorySize) (block : UInt16) {ota : OTA}
    (hcode : 1 ≤ ota.flash.densityCode.toNat ∧ ota.flash.densityCode.toNat ≤ 24)
    (hfit : block.toNat * OTA.flashBlockTobytes + data.bytes.length ≤ 2 ^ ota.flash.densityCode.toNat)
    {tt : Timetable}
    (hready : ∀ n, ota.flash.ready n = OTA.eraseOf tt.erasing.length n)
    (htimely : tt.Timely ((data.bytes.length + 6) / 7)) :
    let announced := gateway.announcement now fs name block
    ∃ frame started stored n, announced.sent = some frame ∧ frame.cmd = .OTA_START ∧
      ota.receiveStart tt.started frame = (true, started) ∧
      ((started.passes tt.erasing).run tt.erased).feed tt 0
        (announced.ota.pieces announced.image) = (true, stored) ∧
      ∀ closing : List UInt32, closing.length = n →
        (∀ t ∈ closing.head?, Timetable.inTime t (tt.stamp ((data.bytes.length + 6) / 7))) →
        let final := stored.passes closing
        final.otaState = .VALID ∧
          Nor.slice final.flash.mem (block.toNat * OTA.flashBlockTobytes) data.bytes.length = data.bytes ∧
          announced.ota.imageCrc = final.crc16.get := by
  intro announced
  have hann : CanOta.Announced data block _ 0 announced := CanOta.announcement_spec hidle now hname hfile hpos block
  obtain ⟨started, hstart, herasing⟩ := OTA.start_granted hready hcode hpos hsize hfit tt.started
  have herased := (herasing.passes tt.erasing htimely.erasing).ready_run htimely.erased
  have hpieces : announced.ota.pieces announced.image =
      CanOta.piecesLoop data.bytes.length announced.ota announced.image := by
    simp [CanOta.pieces, CanOta.available, hann.file, File.available]
  have hcount := CanOta.length_piecesLoop announced.image data.bytes.length 0 announced.ota hann.file
    hann.frameNumber
    (Nat.sub_le _ _)
  rw [Nat.sub_zero] at hcount
  obtain ⟨stored, hfeed, hstored⟩ := herased.feed tt data.bytes.length 0 0 _ announced.ota announced.image hann.file
    hann.frameNumber (Nat.sub_le _ _) (by rw [hcount]; simpa using htimely.passes)
  rw [hcount, Nat.zero_add] at hstored
  obtain ⟨check, hcheck, hopen⟩ := hstored.close
  obtain ⟨n, hn⟩ := hcheck.passes hpos _ check (Nat.le_refl _)
  refine ⟨_, started, stored, n + 1, hann.sent, rfl, ?_, by rw [hpieces]; exact hfeed, fun closing hlen hin => ?_⟩
  · simpa only [OTA.receiveStart, OtaCanFrame.unpackStart_packStart] using hstart
  cases closing with
  | nil => simp at hlen
  | cons t ts =>
    obtain ⟨hvalid, hbytes, hcrc⟩ := hn ts (by simpa using hlen)
    have hfinal : stored.passes (t :: ts) = ts.foldl OTA.run check := by
      simp only [OTA.passes, List.foldl_cons, hopen t (hin t rfl)]
    have hblock : block.toNat * OTA.flashBlockTobytes + data.bytes.length ≤ 2 ^ 24 :=
      Nat.le_trans hfit (Nat.pow_le_pow_right (by omega) hcode.2)
    have hlt : block.toNat * OTA.flashBlockTobytes < 2 ^ 24 := by have := List.length_pos_iff.mpr hpos; omega
    have hsent := SPIFlash.sentAddress_of_lt hlt
    simp only [hfinal]
    refine ⟨hvalid, ?_, by rw [hann.crc, hcrc]⟩
    rwa [SPIFlash.bytes_eq_slice (by rw [hsent]; exact hblock), hsent] at hbytes

/-! ## Ten bytes in block 1 -/

def tenBytes : FileData := ⟨[0x10, 0x20, 0x30, 0x40, 0x50, 0x60, 0x70, 0x80, 0x90, 0xA0], by decide⟩

def promptTimetable : Timetable := ⟨0, [0, 0], 0, fun _ => 0, fun _ => [0]⟩

theorem promptTimetable_timely (n : Nat) : promptTimetable.Timely n := by
  have hstamp (i : Nat) : promptTimetable.stamp i = 0 := by cases i <;> rfl
  refine ⟨?_, rfl, fun i _ t ht => ?_⟩
  · intro t ht
    have : t = 0 := by simpa [promptTimetable] using ht
    subst this; rfl
  · have : t = 0 := by simpa [promptTimetable] using ht
    subst this
    rw [hstamp i]; rfl

def usedFlash : SPIFlash := ⟨fun _ => 0x55, 20, OTA.eraseOf 2, []⟩

theorem image_delivered_tenBytes :
    let announced := CanOta.init.announcement 0 (fun _ => some tenBytes) "/fw.bin" 1
    ∃ frame started stored n, announced.sent = some frame ∧ frame.cmd = .OTA_START ∧
      (OTA.init usedFlash).receiveStart 0 frame = (true, started) ∧
      ((started.passes [0, 0]).run 0).feed promptTimetable 0
        (announced.ota.pieces announced.image) = (true, stored) ∧
      ∀ closing : List UInt32, closing.length = n →
        (∀ t ∈ closing.head?, Timetable.inTime t (promptTimetable.stamp 2)) →
        let final := stored.passes closing
        final.otaState = .VALID ∧ Nor.slice final.flash.mem 32768 10 = tenBytes.bytes ∧
          announced.ota.imageCrc = final.crc16.get :=
  have hidle : CanOta.init.transferState = .IDLE := rfl
  have hname : "/fw.bin".toList.head? = some '/' := by decide
  have hfile : (fun _ => some tenBytes : LittleFS) "/fw.bin" = some tenBytes := rfl
  have hpos : tenBytes.bytes ≠ [] := by decide
  have hsize : tenBytes.bytes.length ≤ OTA.programMemorySize := by decide
  have hcode : 1 ≤ (OTA.init usedFlash).flash.densityCode.toNat ∧ (OTA.init usedFlash).flash.densityCode.toNat ≤
      24 := by
    decide
  have hfit : (1 : UInt16).toNat * OTA.flashBlockTobytes + tenBytes.bytes.length ≤
      2 ^ (OTA.init usedFlash).flash.densityCode.toNat := by decide
  have hready (n : Nat) : (OTA.init usedFlash).flash.ready n = OTA.eraseOf promptTimetable.erasing.length n := rfl
  image_delivered hidle 0 hname hfile hpos hsize 1 hcode hfit hready (promptTimetable_timely 2)

end CanSystems
