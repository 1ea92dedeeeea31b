import CanSystems.CanNode
import CanSystems.CanOta
import CanSystems.StoreRuns

/-!
# Gateway and node on a bus that delays and duplicates

The bus keeps every frame sent so far and may hand over any of them, any number
of times and in any order. A frame carries the number of the transfer it was sent
for: the gateway's count for its own frames, and for a verdict of the node the
transfer whose OTA_START the store last granted. Nobody but the proofs looks at
these numbers.
-/

namespace CanSystems

structure TaggedFrame where
  transfer : Nat
  frame : CanFrame
  deriving DecidableEq, Repr

/-- The node's store was VALID, for this transfer and with these declared values. -/
structure Validation where
  transfer : Nat
  fwSize : Nat
  fwCrc : UInt16
  deriving DecidableEq, Repr

structure OtaBus where
  gateway : CanOta
  current : Nat
  node : CanNode
  accepted : Nat
  toNode : List TaggedFrame
  toGateway : List TaggedFrame
  validated : List Validation

inductive BusEvent
  | startOta (now : UInt32) (fs : LittleFS) (fileName : Option String) (storageNumber : UInt16)
      (image : Option OtaImageInfo)
  | gatewayPass (io : PassIo) (image : OtaImageInfo)
  | toGateway (i : Nat)
  | toNode (now : UInt32) (i : Nat)
  | nodePass (now : UInt32)

namespace OtaBus

def init (flash : SPIFlash) : OtaBus where
  gateway := .init
  current := 0
  node := .init flash
  accepted := 0
  toNode := []
  toGateway := []
  validated := []

/-- The transfer whose OTA_START the store last granted, after one more frame. -/
def acceptedAfter (s : OtaBus) (now : UInt32) (m : TaggedFrame) : Nat :=
  if s.node.grants now m.frame then m.transfer else s.accepted

def tag (transfer : Nat) (frames : List CanFrame) : List TaggedFrame := frames.map (⟨transfer, ·⟩)

def step (s : OtaBus) : BusEvent → OtaBus
  | .startOta now fs fileName storageNumber image =>
    let (code, gateway) := s.gateway.startOta now fs fileName storageNumber image
    { s with gateway := gateway, current := if code = 0 then s.current + 1 else s.current }
  | .gatewayPass io image =>
    let pass := s.gateway.runOta io image
    { s with gateway := pass.ota, toNode := s.toNode ++ tag s.current pass.sent.toList }
  | .toGateway i =>
    match s.toGateway[i]? with
    | none => s
    | some m => { s with gateway := s.gateway.handleOtaCanFrames m.frame }
  | .toNode now i =>
    match s.toNode[i]? with
    | none => s
    | some m =>
      let (answers, node) := s.node.handleRxFrame now m.frame
      { s with
        node := node
        accepted := s.acceptedAfter now m
        toGateway := s.toGateway ++ tag m.transfer answers }
  | .nodePass now =>
    let ota := s.node.ota.run now
    let (answers, node) := s.node.runStore now
    { s with
      node := node
      toGateway := s.toGateway ++ tag s.accepted answers
      validated := s.validated ++ if ota.otaState = .VALID then [⟨s.accepted, ota.fwSize, ota.fwCrc⟩] else [] }

/-- An OTA_START of transfer `n` with these fields is on the bus. -/
def Announced (s : OtaBus) (n : Nat) (fields : OtaCanFrame.StartFrame) : Prop :=
  ∃ m ∈ s.toNode, m.transfer = n ∧ m.frame.cmd = .OTA_START ∧ OtaCanFrame.unpackStart m.frame.data = fields

def Confirmed (s : OtaBus) : Prop :=
  ∃ v ∈ s.validated, v.transfer = s.current ∧ v.fwSize = s.gateway.fileSize.toNat ∧ v.fwCrc = s.gateway.imageCrc

instance (s : OtaBus) : Decidable s.Confirmed := inferInstanceAs (Decidable (∃ v ∈ s.validated, _))

/-- No OTA_END ACK of another transfer is handed to a gateway that waits. -/
def NoStaleVerdict (s : OtaBus) : BusEvent → Prop
  | .toGateway i => ∀ m ∈ s.toGateway[i]?, s.gateway.transferState = .WAIT_FOR_ACK → m.frame.cmd = .OTA_END →
      m.frame.isAck = true → m.transfer = s.current
  | _ => True

instance (s : OtaBus) (e : BusEvent) : Decidable (NoStaleVerdict s e) := by
  cases e <;> unfold NoStaleVerdict <;> infer_instance

/-! ## The invariant -/

/-- The fields on the bus for the gateway's transfer are the gateway's, the node's store works
on fields that were on the bus, and an OTA_END ACK stands for a store that was VALID. -/
structure Honest (s : OtaBus) : Prop where
  past : ∀ n fields, s.Announced n fields → n ≤ s.current
  fresh : s.gateway.transferState = .START → ∀ fields, ¬ s.Announced s.current fields
  fields : s.gateway.transferState = .WAIT_FOR_ACK ∨ s.gateway.transferState = .STORE → ∀ fields,
    s.Announced s.current fields → fields.fwSize = s.gateway.fileSize ∧ fields.fwCrc = s.gateway.imageCrc
  store : OTA.underway s.node.ota.otaState → ∃ fields, s.Announced s.accepted fields ∧
    s.node.ota.fwSize = fields.fwSize.toNat ∧ s.node.ota.fwCrc = fields.fwCrc
  verdicts : ∀ m ∈ s.toGateway, m.frame.cmd = .OTA_END → m.frame.isAck = true →
    ∃ v ∈ s.validated, v.transfer = m.transfer
  validated : ∀ v ∈ s.validated, ∃ fields, s.Announced v.transfer fields ∧
    v.fwSize = fields.fwSize.toNat ∧ v.fwCrc = fields.fwCrc
  confirmed : s.gateway.transferState = .VALID → s.Confirmed

theorem honest_init (flash : SPIFlash) : (init flash).Honest where
  past := by rintro n fields ⟨m, hm, -⟩; cases hm
  fresh := nofun
  fields := by rintro (h | h) <;> cases h
  store := by rintro (h | h | h) <;> cases h
  verdicts := nofun
  validated := nofun
  confirmed := nofun

theorem honest_startOta {s : OtaBus} (h : s.Honest) (now : UInt32) (fs : LittleFS) (fileName : Option String)
    (storageNumber : UInt16) (image : Option OtaImageInfo) :
    (s.step (.startOta now fs fileName storageNumber image)).Honest := by
  rcases s.gateway.startOta_cases now fs fileName storageNumber image with
    ⟨code, hcode, he⟩ | ⟨code, hcode, name, size, -, -, he⟩ | ⟨name, data, -, -, -, -, he⟩
  · simp only [step, he, if_neg hcode]
    exact ⟨h.past, h.fresh, h.fields, h.store, h.verdicts, h.validated, h.confirmed⟩
  · simp only [step, he, if_neg hcode]
    exact ⟨h.past, nofun, (by rintro (e | e) <;> cases e), h.store, h.verdicts, h.validated, nofun⟩
  · simp only [step, he, if_true]
    refine ⟨fun n fields hn => Nat.le_succ_of_le (h.past n fields hn), fun _ fields hn => ?_,
      (by rintro (e | e) <;> cases e), h.store, h.verdicts, h.validated, nofun⟩
    exact absurd (h.past _ fields hn) (Nat.not_succ_le_self _)

theorem Honest.gateway_step {s t : OtaBus} (h : s.Honest) (hnode : t.node = s.node) (hacc : t.accepted = s.accepted)
    (hcur : t.current = s.current) (hback : t.toGateway = s.toGateway) (hval : t.validated = s.validated)
    (hann : ∀ n fields, t.Announced n fields ↔ s.Announced n fields)
    (hfresh : t.gateway.transferState = .START → s.gateway.transferState = .START)
    (hfields : t.gateway.transferState = .WAIT_FOR_ACK ∨ t.gateway.transferState = .STORE →
      (s.gateway.transferState = .WAIT_FOR_ACK ∨ s.gateway.transferState = .STORE) ∧
        t.gateway.fileSize = s.gateway.fileSize ∧ t.gateway.imageCrc = s.gateway.imageCrc)
    (hvalid : t.gateway.transferState ≠ .VALID) : t.Honest where
  past := by simpa only [hann, hcur] using h.past
  fresh := fun e => by simpa only [hann, hcur] using h.fresh (hfresh e)
  fields := fun e => by
    obtain ⟨hold, hsize, hcrc⟩ := hfields e
    simpa only [hann, hcur, hsize, hcrc] using h.fields hold
  store := by simpa only [hann, hnode, hacc] using h.store
  verdicts := by simpa only [hback, hval] using h.verdicts
  validated := by simpa only [hann, hval] using h.validated
  confirmed := fun e => absurd e hvalid

theorem announced_append {s t : OtaBus} {m : TaggedFrame} (ht : t.toNode = s.toNode ++ [m]) (n : Nat)
    (fields : OtaCanFrame.StartFrame) : t.Announced n fields ↔ s.Announced n fields ∨
      (m.transfer = n ∧ m.frame.cmd = .OTA_START ∧ OtaCanFrame.unpackStart m.frame.data = fields) := by
  simp only [Announced, ht, List.mem_append, List.mem_singleton]
  constructor
  · rintro ⟨m', hm | rfl, hrest⟩
    · exact Or.inl ⟨m', hm, hrest⟩
    · exact Or.inr hrest
  · rintro (⟨m', hm, hrest⟩ | hrest)
    · exact ⟨m', Or.inl hm, hrest⟩
    · exact ⟨m, Or.inr rfl, hrest⟩

theorem honest_sendStart {s t : OtaBus} (h : s.Honest) (hstart : s.gateway.transferState = .START)
    {fields : OtaCanFrame.StartFrame} (ht : t = { s with
      gateway := t.gateway
      toNode := s.toNode ++ [⟨s.current, ⟨.OTA_START, OtaCanFrame.packStart fields⟩⟩] })
    (hwait : t.gateway.transferState = .WAIT_FOR_ACK) (hsize : fields.fwSize = t.gateway.fileSize)
    (hcrc : fields.fwCrc = t.gateway.imageCrc) : t.Honest := by
  have hnew (n : Nat) (f : OtaCanFrame.StartFrame) : t.Announced n f ↔ s.Announced n f ∨
      (s.current = n ∧ fields = f) := by
    rw [ht, announced_append rfl]
    simp [Announced]
  have hcur : t.current = s.current := by rw [ht]
  have hnode : t.node = s.node := by rw [ht]
  have hacc : t.accepted = s.accepted := by rw [ht]
  have hback : t.toGateway = s.toGateway := by rw [ht]
  have hval : t.validated = s.validated := by rw [ht]
  refine ⟨fun n f hn => ?_, fun e => ?_, fun _ f hn => ?_, fun hu => ?_, ?_, fun v hv => ?_, fun e => ?_⟩
  · rw [hcur]
    rcases (hnew n f).mp hn with hn | ⟨rfl, -⟩
    · exact h.past n f hn
    · exact Nat.le_refl _
  · rw [hwait] at e; cases e
  · rcases (hnew _ f).mp hn with hn | ⟨-, rfl⟩
    · rw [hcur] at hn
      exact absurd hn (h.fresh hstart f)
    · exact ⟨hsize, hcrc⟩
  · rw [hnode] at hu ⊢
    obtain ⟨f, hf, hrest⟩ := h.store hu
    rw [hacc]
    exact ⟨f, (hnew _ f).mpr (Or.inl hf), hrest⟩
  · simpa only [hback, hval] using h.verdicts
  · rw [hval] at hv
    obtain ⟨f, hf, hrest⟩ := h.validated v hv
    exact ⟨f, (hnew _ f).mpr (Or.inl hf), hrest⟩
  · rw [hwait] at e; cases e

theorem honest_gatewayPass {s : OtaBus} (h : s.Honest) (io : PassIo) (image : OtaImageInfo) :
    (s.step (.gatewayPass io image)).Honest := by
  -- A pass that sends nothing, or a piece, leaves the announcements as they are.
  have hquiet (gateway : CanOta) (frames : List CanFrame) (hframes : ∀ f ∈ frames, f.cmd ≠ .OTA_START)
      (hfresh : gateway.transferState = .START → s.gateway.transferState = .START)
      (hfields : gateway.transferState = .WAIT_FOR_ACK ∨ gateway.transferState = .STORE →
        (s.gateway.transferState = .WAIT_FOR_ACK ∨ s.gateway.transferState = .STORE) ∧
          gateway.fileSize = s.gateway.fileSize ∧ gateway.imageCrc = s.gateway.imageCrc)
      (hvalid : gateway.transferState ≠ .VALID) :
      Honest { s with gateway := gateway, toNode := s.toNode ++ tag s.current frames } := by
    refine h.gateway_step rfl rfl rfl rfl rfl (fun n fields => ?_) hfresh hfields hvalid
    simp only [Announced, tag, List.mem_append, List.mem_map]
    constructor
    · rintro ⟨m, hm | ⟨f, hf, rfl⟩, hn, hcmd, hrest⟩
      · exact ⟨m, hm, hn, hcmd, hrest⟩
      · exact absurd hcmd (hframes f hf)
    · rintro ⟨m, hm, hrest⟩
      exact ⟨m, Or.inl hm, hrest⟩
  have hstart (gateway : CanOta) (hst : s.gateway.transferState = .START) (image' : OtaImageInfo) :
      Honest { s with gateway := (gateway.sendStart io image').ota,
                      toNode := s.toNode ++ tag s.current (gateway.sendStart io image').sent.toList } := by
    rcases gateway.sendStart_cases io image' with ⟨sent, he, hsent, -⟩ | he
    · rw [he]
      subst hsent
      exact honest_sendStart h hst rfl rfl (by simp) (by simp)
    · rw [he]
      exact hquiet _ [] nofun nofun (by rintro (e | e) <;> cases e) nofun
  simp only [step]
  rcases s.gateway.runOta_cases io image with
    ⟨-, he⟩ | ⟨hs, he⟩ | ⟨hs, he⟩ | ⟨hs, he⟩ | ⟨hs, he⟩ | ⟨-, he⟩
  · rw [he]
    exact hquiet _ [] nofun nofun (by rintro (e | e) <;> cases e) nofun
  · rw [he]
    exact hquiet _ [] nofun (fun e => e) (fun e => ⟨e, rfl, rfl⟩) (by simp [hs])
  · rw [he]
    exact hquiet _ [] nofun (fun e => e) (fun e => ⟨e, rfl, rfl⟩) (by simp [hs])
  · rw [he]
    rcases s.gateway.checksumOrSendStart_cases io image with
      ⟨-, hc⟩ | ⟨-, hc⟩ | ⟨-, file, n, -, -, hc⟩ | ⟨-, -, hc⟩
    · rw [hc]; exact hstart _ hs _
    · rw [hc]; exact hquiet _ [] nofun nofun (by rintro (e | e) <;> cases e) nofun
    · rw [hc]; exact hquiet _ [] nofun (fun _ => hs) (by simp [hs]) (by simp [hs])
    · rw [hc]; exact hstart _ hs _
  · rw [he]
    rcases CanOta.sendNextPiece_cases { s.gateway with otaTimeoutTimer := io.now } io image with
      ⟨-, hc⟩ | ⟨file, frameNumber, -, hc⟩ | ⟨file, -, -, hc⟩
    · rw [hc]; exact hquiet _ [] nofun nofun (fun _ => ⟨Or.inr hs, rfl, rfl⟩) nofun
    · rw [hc]; exact hquiet _ [] nofun nofun (by rintro (e | e) <;> cases e) nofun
    · rw [hc]
      exact hquiet _ [_] (by simp) nofun (fun _ => ⟨Or.inr hs, rfl, rfl⟩) nofun
  · rw [he]
    exact hquiet _ [] nofun nofun (by rintro (e | e) <;> cases e) nofun

theorem honest_toGateway {s : OtaBus} (h : s.Honest) (i : Nat) (hG : NoStaleVerdict s (.toGateway i)) :
    (s.step (.toGateway i)).Honest := by
  simp only [step]
  cases hm : s.toGateway[i]? with
  | none => simpa only using h
  | some m =>
    simp only
    rcases s.gateway.handleOtaCanFrames_cases m.frame with he | ⟨hwait, state, he, hstate, hack⟩
    · rw [he]; exact h
    rw [he]
    have hold := h.fields (Or.inl hwait)
    refine ⟨h.past, fun e => ?_, fun _ => hold, h.store, h.verdicts, h.validated, fun e => ?_⟩
    · rcases hstate with rfl | ⟨rfl, -⟩ | ⟨rfl, -⟩ <;> cases e
    · obtain rfl : state = .VALID := e
      have hisAck : m.frame.isAck = true := by
        cases hb : m.frame.isAck with
        | true => rfl
        | false => exact absurd (hack.mpr hb) (by simp)
      have hend : m.frame.cmd = .OTA_END := by simpa using hstate
      have hcurrent := hG m (by rw [hm]; rfl) hwait hend hisAck
      obtain ⟨v, hv, hvt⟩ := h.verdicts m (List.mem_of_getElem? hm) hend hisAck
      obtain ⟨fields, hann, hsize, hcrc⟩ := h.validated v hv
      rw [hvt, hcurrent] at hann
      obtain ⟨hfileSize, hfileCrc⟩ := hold fields hann
      exact ⟨v, hv, hvt.trans hcurrent, by rw [hsize, hfileSize], by rw [hcrc, hfileCrc]⟩

theorem Honest.node_step {s : OtaBus} (h : s.Honest) (node : CanNode) (accepted : Nat) (frames : List TaggedFrame)
    (hframes : ∀ m ∈ frames, m.frame.cmd ≠ .OTA_END)
    (hstore : OTA.underway node.ota.otaState → ∃ fields, s.Announced accepted fields ∧
      node.ota.fwSize = fields.fwSize.toNat ∧ node.ota.fwCrc = fields.fwCrc) :
    Honest { s with node := node, accepted := accepted, toGateway := s.toGateway ++ frames } := by
  refine ⟨h.past, h.fresh, h.fields, hstore, fun m hm hcmd hack => ?_, h.validated, h.confirmed⟩
  rcases List.mem_append.mp hm with hm | hm
  · exact h.verdicts m hm hcmd hack
  · exact absurd hcmd (hframes m hm)

theorem acceptedAfter_of_ne {s : OtaBus} {m : TaggedFrame} (h : m.frame.cmd ≠ .OTA_START) (now : UInt32) :
    s.acceptedAfter now m = s.accepted := by
  simp [acceptedAfter, CanNode.grants, h]

theorem honest_toNode {s : OtaBus} (h : s.Honest) (now : UInt32) (i : Nat) : (s.step (.toNode now i)).Honest := by
  simp only [step]
  cases hm : s.toNode[i]? with
  | none => simpa only using h
  | some m =>
    simp only
    have hmem := List.mem_of_getElem? hm
    unfold CanNode.handleRxFrame
    cases hcmd : m.frame.cmd with
    | PING =>
      rw [acceptedAfter_of_ne (by simp [hcmd])]
      exact h.node_step _ _ _ (by simp [tag]) h.store
    | RESTART =>
      rw [acceptedAfter_of_ne (by simp [hcmd])]
      refine h.node_step _ _ _ (by simp [tag]) ?_
      rintro (e | e | e) <;> cases e
    | OTA_START =>
      simp only
      rcases s.node.ota.start_cases now (OtaCanFrame.unpackStart m.frame.data).storageNumber
        (OtaCanFrame.unpackStart m.frame.data).fwSize (OtaCanFrame.unpackStart m.frame.data).fwCrc with
        ⟨flash, -, he⟩ | ⟨flash, -, -, -, -, -, -, he⟩
      · have hacc : s.acceptedAfter now m = s.accepted := by simp [acceptedAfter, CanNode.grants, he]
        rw [hacc, he]
        exact h.node_step _ _ _ (by simp [tag]) h.store
      · have hacc : s.acceptedAfter now m = m.transfer := by simp [acceptedAfter, CanNode.grants, hcmd, he]
        rw [hacc, he]
        exact h.node_step _ _ _ (by simp [tag]) fun _ => ⟨_, ⟨m, hmem, rfl, hcmd, rfl⟩, rfl, rfl⟩
    | OTA_SEND =>
      simp only
      rw [acceptedAfter_of_ne (by simp [hcmd])]
      refine h.node_step _ _ _ (by simp [tag]) ?_
      rcases s.node.ota.storeNextData_cases now (OtaCanFrame.unpackSend m.frame.data).sequence
        (OtaCanFrame.unpackSend m.frame.data).data with
        he | ⟨first, pointer, rest, -, -, ⟨-, he⟩ | ⟨-, -, ok, flash, -, he⟩⟩
      · rw [he]; exact h.store
      · rw [he]; exact h.store
      · rw [he]
        cases ok with
        | false => rintro (e | e | e) <;> cases e
        | true => exact h.store
    | FW_VERSION | BUTTON_EVENT | OTA_END | RGB_LED | ROUND_TIME_MAX | SET_CAN_ID | ANNOUNCE | driver value =>
      rw [acceptedAfter_of_ne (by simp [hcmd])]
      exact h.node_step _ _ _ (by simp [tag]) h.store

theorem honest_nodePass {s : OtaBus} (h : s.Honest) (now : UInt32) : (s.step (.nodePass now)).Honest := by
  have hrun (e : OTA.underway (s.node.ota.run now).otaState ∨ (s.node.ota.run now).otaState = .VALID) :=
    OTA.run_underway e
  simp only [step, CanNode.runStore]
  by_cases hv : (s.node.ota.run now).otaState = .VALID
  · obtain ⟨hu, hsize, hcrc⟩ := hrun (Or.inr hv)
    obtain ⟨fields, hann, hs, hc⟩ := h.store hu
    have hnew : ∀ v ∈ s.validated ++ [⟨s.accepted, (s.node.ota.run now).fwSize, (s.node.ota.run now).fwCrc⟩],
        ∃ fields, s.Announced v.transfer fields ∧ v.fwSize = fields.fwSize.toNat ∧ v.fwCrc = fields.fwCrc := by
      intro v hmem
      rcases List.mem_append.mp hmem with hmem | hmem
      · exact h.validated v hmem
      · rw [List.mem_singleton.mp hmem]
        exact ⟨fields, hann, hsize.trans hs, hcrc.trans hc⟩
    have hstate : ¬ OTA.underway (if (OtaCanResponse.decide s.node.lastOtaState .VALID
      (s.node.ota.run now).isOwnFw).reboot
        then CanNode.restartMCU ⟨s.node.ota.run now, .VALID⟩ else ⟨s.node.ota.run now, .VALID⟩).ota.otaState := by
      split
      · rintro (e | e | e) <;> cases e
      · rintro (e | e | e) <;> (simp only [hv] at e; cases e)
    simp only [hv, if_true]
    refine ⟨h.past, h.fresh, h.fields, fun e => absurd e hstate, fun m hmem hcmd hack => ?_, hnew, fun e => ?_⟩
    · rcases List.mem_append.mp hmem with hmem | hmem
      · obtain ⟨v, hvm, hvt⟩ := h.verdicts m hmem hcmd hack
        exact ⟨v, List.mem_append_left _ hvm, hvt⟩
      · obtain ⟨f, -, rfl⟩ := List.mem_map.mp hmem
        exact ⟨_, List.mem_append_right _ (List.mem_singleton_self _), rfl⟩
    · obtain ⟨v, hvm, hrest⟩ := h.confirmed e
      exact ⟨v, List.mem_append_left _ hvm, hrest⟩
  · have hdecide : (OtaCanResponse.decide s.node.lastOtaState (s.node.ota.run now).otaState
        (s.node.ota.run now).isOwnFw).reboot = false ∧
        ∀ f ∈ (OtaCanResponse.decide s.node.lastOtaState (s.node.ota.run now).otaState
          (s.node.ota.run now).isOwnFw).action.answers, f.cmd = .OTA_END → f.isAck = false := by
      unfold OtaCanResponse.decide
      split
      · exact ⟨rfl, by simp [OtaCanResponse.Action.answers]⟩
      split <;> exact ⟨rfl, by simp [OtaCanResponse.Action.answers]⟩
    simp only [hdecide.1, hv, Bool.false_eq_true, if_false, List.append_nil]
    refine ⟨h.past, h.fresh, h.fields, fun e => ?_, fun m hmem hcmd hack => ?_, h.validated, h.confirmed⟩
    · obtain ⟨hu, hsize, hcrc⟩ := hrun (Or.inl e)
      obtain ⟨fields, hann, hs, hc⟩ := h.store hu
      exact ⟨fields, hann, hsize.trans hs, hcrc.trans hc⟩
    · rcases List.mem_append.mp hmem with hmem | hmem
      · exact h.verdicts m hmem hcmd hack
      · obtain ⟨f, hf, rfl⟩ := List.mem_map.mp hmem
        exact absurd hack (by simp [hdecide.2 f hf hcmd])

theorem step_honest {s : OtaBus} {e : BusEvent} (h : s.Honest) (hG : NoStaleVerdict s e) : (s.step e).Honest := by
  cases e with
  | startOta now fs fileName storageNumber image => exact honest_startOta h now fs fileName storageNumber image
  | gatewayPass io image => exact honest_gatewayPass h io image
  | toGateway i => exact honest_toGateway h i hG
  | toNode now i => exact honest_toNode h now i
  | nodePass now => exact honest_nodePass h now

end OtaBus

/-- In every run in which no OTA_END ACK of another transfer reaches a waiting gateway, a VALID
gateway is one whose transfer the node's store was VALID for, with the gateway's size and checksum. -/
theorem valid_is_confirmed (flash : SPIFlash) (es : List BusEvent)
    (hG : Machine.Meets OtaBus.step OtaBus.NoStaleVerdict (OtaBus.init flash) es)
    (hv : (Machine.run OtaBus.step (OtaBus.init flash) es).gateway.transferState = .VALID) :
    (Machine.run OtaBus.step (OtaBus.init flash) es).Confirmed :=
  (Machine.run_inv (fun _ _ h hg => OtaBus.step_honest h hg) (OtaBus.honest_init flash) hG).confirmed hv

/-! ## Both kinds of run -/

def smoothPass : BusEvent := .gatewayPass .smooth .empty

/-- The transfer of one byte to block 1, to the moment the gateway waits for the verdict. -/
def oneByteTransfer : List BusEvent :=
  [.startOta 0 (fun _ => some oneByte) (some "/fw.bin") 1 none, smoothPass, smoothPass, .toNode 0 0, .nodePass 0,
   .nodePass 0, .toGateway 0, smoothPass, .toNode 0 1, .nodePass 0, .toGateway 1, smoothPass, .nodePass 0]

def confirmedRun : List BusEvent := oneByteTransfer ++ [.toGateway 2]

theorem valid_is_confirmed_oneByte :
    (Machine.run OtaBus.step (OtaBus.init SPIFlash.quickFlash) confirmedRun).Confirmed :=
  valid_is_confirmed SPIFlash.quickFlash confirmedRun (by decide +kernel) (by decide +kernel)

/-- The verdict of the first transfer comes once more while the second waits for its start. -/
def lateVerdictRun : List BusEvent :=
  confirmedRun ++ [smoothPass, .startOta 0 (fun _ => some oneByte) (some "/fw.bin") 1 none,
    smoothPass, smoothPass, .toGateway 2]

theorem valid_not_always_confirmed :
    ¬ ∀ (flash : SPIFlash) (es : List BusEvent),
      (Machine.run OtaBus.step (OtaBus.init flash) es).gateway.transferState = .VALID →
      (Machine.run OtaBus.step (OtaBus.init flash) es).Confirmed := by
  intro h
  have hlate := h SPIFlash.quickFlash lateVerdictRun (by decide +kernel)
  revert hlate
  decide +kernel

end CanSystems
