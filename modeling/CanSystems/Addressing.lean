import Mathlib.Logic.Function.Basic
import CanSystems.CanCommissioner
import CanSystems.Lib.Machine

/-!
# Many nodes waiting for an address

The nodes, the gateway and every frame that was ever put on the bus. A frame can
reach a node or the gateway at any later time, any number of times or never; a
node takes what its receive filter lets through. `named` lists the `assign`
calls made.

A request carries the address the node waits on, not its unique id, and two
nodes can wait on the same one: both obey the request (`addresses_not_unique`).
Where no call sends a request to an address that two nodes are waiting on, each
node ends with an address that was meant for it (`addresses_unique`).
-/

namespace CanSystems

structure Addressing (n : Nat) where
  nodes : Fin n → IdNode
  commissioner : CanCommissioner
  bus : List BusFrame
  named : List (Option Uid × UInt16)

inductive AddressingOp (n : Nat)
  /-- A pass of a node. -/
  | announce (i : Fin n) (now : UInt32)
  /-- A frame of the bus reaches the gateway, where no device claims it. -/
  | hear (k : Nat) (now : UInt32)
  /-- A pass of the gateway. -/
  | forget (now : UInt32)
  | assign (uidHex : Option String) (newLocalCanId : UInt16) (io : AssignIo)
  /-- A frame of the bus reaches a node. -/
  | deliver (k : Nat) (i : Fin n) (saved : Bool)
  | restart (i : Fin n)

namespace Addressing

variable {n : Nat} (builds : Fin n → NodeBuild) (gateway : CanId)

def init : Addressing n := ⟨fun i => IdNode.init (builds i) none, CanCommissioner.init, [], []⟩

/-- The state after node `i` became `node` and put `frames` on the bus. -/
def put (s : Addressing n) (i : Fin n) (frames : List BusFrame) (node : IdNode) : Addressing n :=
  { s with nodes := Function.update s.nodes i node, bus := s.bus ++ frames }

@[simp] theorem put_nodes (s : Addressing n) (i : Fin n) (frames : List BusFrame) (node : IdNode) :
    (s.put i frames node).nodes = Function.update s.nodes i node := rfl

@[simp] theorem put_bus (s : Addressing n) (i : Fin n) (frames : List BusFrame) (node : IdNode) :
    (s.put i frames node).bus = s.bus ++ frames := rfl

def step (s : Addressing n) : AddressingOp n → Addressing n
  | .announce i now =>
    let (frames, node) := (s.nodes i).announce (builds i) now
    s.put i frames node
  | .hear k now =>
    match s.bus[k]? with
    | none => s
    | some frame =>
      if frame.receiver = gateway.localCanId &&& CanIdAssign.idMask then
        { s with commissioner := s.commissioner.noteAnnouncement frame now }
      else s
  | .forget now => { s with commissioner := s.commissioner.run now }
  | .assign uidHex newLocalCanId io =>
    { s with
      bus := s.bus ++ (s.commissioner.assign gateway io uidHex newLocalCanId).2
      named := s.named ++ [(CanCommissioner.parseUid uidHex, newLocalCanId)] }
  | .deliver k i saved =>
    match s.bus[k]? with
    | none => s
    | some frame =>
      if (s.nodes i).hears frame ∧ frame.cmd = .SET_CAN_ID then
        let (frames, node) := (s.nodes i).handleSetCanId (builds i) frame saved
        s.put i frames node
      else s
  | .restart i => s.put i [] ((s.nodes i).restartMCU (builds i))

/-- The address given by a call is assignable, and no call before it gave the same one. -/
def Distinct (s : Addressing n) : AddressingOp n → Prop
  | .assign _ newLocalCanId _ =>
    CanIdAssign.isAssignableId newLocalCanId = true ∧ ∀ p ∈ s.named, p.2 ≠ newLocalCanId
  | _ => True

/-- When a call sends a request, no other node without an address waits on the address of the node it names. -/
def Unambiguous (s : Addressing n) : AddressingOp n → Prop
  | .assign uidHex newLocalCanId io =>
    (s.commissioner.assign gateway io uidHex newLocalCanId).2 ≠ [] →
      ∀ uid ∈ CanCommissioner.parseUid uidHex, ∀ i, (s.nodes i).stored = none →
        CanIdAssign.provisionalId (builds i).uid = CanIdAssign.provisionalId uid → (builds i).uid = uid
  | _ => True

/-- No two nodes have stored the same address, and each stored address was given to the unique id of its node. -/
structure Safe (s : Addressing n) : Prop where
  distinct : ∀ i j idI idJ, (s.nodes i).stored = some idI → (s.nodes j).stored = some idJ →
    idI.localCanId = idJ.localCanId → i = j
  named : ∀ i id, (s.nodes i).stored = some id → (some (builds i).uid, id.localCanId) ∈ s.named

/-! ## The frames on the bus -/

/-- A SET_CAN_ID frame is the answer of a node, or a request for the one node that waits on its address. -/
def RequestSound (s : Addressing n) (frame : BusFrame) : Prop :=
  (CanIdAssign.unpack frame.data).newLocal = 0 ∨
  ∃ uid id, (some uid, id) ∈ s.named ∧
    CanIdAssign.unpack frame.data = ⟨CanIdAssign.provisionalId uid, id, true⟩ ∧
    ∀ i, (s.nodes i).stored = none →
      CanIdAssign.provisionalId (builds i).uid = CanIdAssign.provisionalId uid → (builds i).uid = uid

/-- What every reachable state has, when the addresses given are distinct and the calls unambiguous. -/
structure Inv (s : Addressing n) : Prop where
  unaddressed : ∀ i, (s.nodes i).addressed = false → (s.nodes i).stored = none
  waiting : ∀ i, (s.nodes i).stored = none → (s.nodes i).canId.localCanId = CanIdAssign.provisionalId (builds i).uid
  addressed : ∀ i id, (s.nodes i).stored = some id →
    (s.nodes i).canId = id ∧ CanIdAssign.isAssignableId id.localCanId = true
  announced : ∀ frame ∈ s.bus, frame.cmd = .ANNOUNCE → frame.sender = CanIdAssign.provisionalId frame.data
  table : ∀ entry ∈ s.commissioner.waiting, entry.inUse = true →
    entry.provisionalId = CanIdAssign.provisionalId entry.uid
  requests : ∀ frame ∈ s.bus, frame.cmd = .SET_CAN_ID → s.RequestSound builds frame
  fresh : (s.named.map Prod.snd).Nodup
  meant : ∀ i id, (s.nodes i).stored = some id → (some (builds i).uid, id.localCanId) ∈ s.named

variable {builds gateway}

theorem RequestSound.mono {s s' : Addressing n} {frame : BusFrame} (h : s.RequestSound builds frame)
    (hnamed : ∀ p ∈ s.named, p ∈ s'.named)
    (hnodes : ∀ i, (s'.nodes i).stored = none → (s.nodes i).stored = none) : s'.RequestSound builds frame := by
  rcases h with h | ⟨uid, id, hmem, hunpack, honly⟩
  · exact Or.inl h
  · exact Or.inr ⟨uid, id, hnamed _ hmem, hunpack, fun i hi => honly i (hnodes i hi)⟩

theorem inv_init : (init builds).Inv builds where
  unaddressed := by
    intro i _
    rfl
  waiting := by
    intro i _
    exact CanIdAssign.provisionalId_masked _
  addressed := by
    intro i id h
    cases h
  announced := by
    intro frame h
    cases h
  table := by
    intro entry h
    have hentry : entry ∈ Vector.replicate 4 (⟨Vector.replicate 8 0, 0, 0, false⟩ : Waiting) := h
    rw [(Vector.mem_replicate.mp hentry).2]
    intro hfalse
    cases hfalse
  requests := by
    intro frame h
    cases h
  fresh := List.nodup_nil
  meant := by
    intro i id h
    cases h

/-! ## What one node can do -/

variable (builds) in
/-- The new state and the frames of one node keep what every reachable state has. -/
structure NodeStep (s : Addressing n) (i : Fin n) (frames : List BusFrame) (node : IdNode) : Prop where
  unaddressed : node.addressed = false → node.stored = none
  waiting : node.stored = none →
    (s.nodes i).stored = none ∧ node.canId.localCanId = CanIdAssign.provisionalId (builds i).uid
  addressed : ∀ id, node.stored = some id → node.canId = id ∧ CanIdAssign.isAssignableId id.localCanId = true ∧
    (some (builds i).uid, id.localCanId) ∈ s.named
  announced : ∀ frame ∈ frames, frame.cmd = .ANNOUNCE → frame.sender = CanIdAssign.provisionalId frame.data
  answers : ∀ frame ∈ frames, frame.cmd = .SET_CAN_ID → (CanIdAssign.unpack frame.data).newLocal = 0

theorem Inv.put {s : Addressing n} (h : s.Inv builds) {i : Fin n} {frames : List BusFrame} {node : IdNode}
    (hstep : s.NodeStep builds i frames node) : (s.put i frames node).Inv builds := by
  have hstored : ∀ j, ((s.put i frames node).nodes j).stored = none → (s.nodes j).stored = none := by
    intro j hj
    by_cases hij : j = i
    · subst hij
      rw [put_nodes, Function.update_self] at hj
      exact (hstep.waiting hj).1
    · rw [put_nodes, Function.update_of_ne hij] at hj
      exact hj
  constructor
  case unaddressed =>
    intro j
    by_cases hij : j = i
    · subst hij
      rw [put_nodes, Function.update_self]
      exact hstep.unaddressed
    · rw [put_nodes, Function.update_of_ne hij]
      exact h.unaddressed j
  case waiting =>
    intro j
    by_cases hij : j = i
    · subst hij
      rw [put_nodes, Function.update_self]
      exact fun hj => (hstep.waiting hj).2
    · rw [put_nodes, Function.update_of_ne hij]
      exact h.waiting j
  case addressed =>
    intro j id
    by_cases hij : j = i
    · subst hij
      rw [put_nodes, Function.update_self]
      exact fun hj => ⟨(hstep.addressed id hj).1, (hstep.addressed id hj).2.1⟩
    · rw [put_nodes, Function.update_of_ne hij]
      exact h.addressed j id
  case announced =>
    intro frame hmem
    rw [put_bus] at hmem
    rcases List.mem_append.mp hmem with hmem | hmem
    · exact h.announced frame hmem
    · exact hstep.announced frame hmem
  case table => exact h.table
  case requests =>
    intro frame hmem hcmd
    rw [put_bus] at hmem
    rcases List.mem_append.mp hmem with hmem | hmem
    · exact (h.requests frame hmem hcmd).mono (fun _ hp => hp) hstored
    · exact Or.inl (hstep.answers frame hmem hcmd)
  case fresh => exact h.fresh
  case meant =>
    intro j id
    by_cases hij : j = i
    · subst hij
      rw [put_nodes, Function.update_self]
      exact fun hj => (hstep.addressed id hj).2.2
    · rw [put_nodes, Function.update_of_ne hij]
      exact h.meant j id

theorem Inv.nodeStep_same {s : Addressing n} (h : s.Inv builds) (i : Fin n) {frames : List BusFrame} {node : IdNode}
    (hstored : node.stored = (s.nodes i).stored) (hcanId : node.canId = (s.nodes i).canId)
    (haddressed : node.addressed = (s.nodes i).addressed)
    (hannounced : ∀ frame ∈ frames, frame.cmd = .ANNOUNCE → frame.sender = CanIdAssign.provisionalId frame.data)
    (hanswers : ∀ frame ∈ frames, frame.cmd = .SET_CAN_ID → (CanIdAssign.unpack frame.data).newLocal = 0) :
    s.NodeStep builds i frames node where
  unaddressed := by
    rw [haddressed, hstored]
    exact h.unaddressed i
  waiting := by
    rw [hstored, hcanId]
    exact fun hnone => ⟨hnone, h.waiting i hnone⟩
  addressed := by
    intro id
    rw [hstored, hcanId]
    exact fun hid => ⟨(h.addressed i id hid).1, (h.addressed i id hid).2, h.meant i id hid⟩
  announced := hannounced
  answers := hanswers

theorem nodeStep_init {s : Addressing n} {i : Fin n} {frames : List BusFrame} {stored : Option CanId}
    (hnone : stored = none → (s.nodes i).stored = none)
    (hsome : ∀ id, stored = some id →
      CanIdAssign.isAssignableId id.localCanId = true ∧ (some (builds i).uid, id.localCanId) ∈ s.named)
    (hannounced : ∀ frame ∈ frames, frame.cmd = .ANNOUNCE → frame.sender = CanIdAssign.provisionalId frame.data)
    (hanswers : ∀ frame ∈ frames, frame.cmd = .SET_CAN_ID → (CanIdAssign.unpack frame.data).newLocal = 0) :
    s.NodeStep builds i frames (IdNode.init (builds i) stored) := by
  cases stored with
  | none =>
    refine ⟨fun _ => rfl, fun _ => ⟨hnone rfl, CanIdAssign.provisionalId_masked _⟩, ?_, hannounced, hanswers⟩
    intro id hid
    cases hid
  | some id =>
    refine ⟨?_, ?_, ?_, hannounced, hanswers⟩
    · intro hfalse
      cases hfalse
    · intro hfalse
      cases hfalse
    · intro id' hid
      cases hid
      exact ⟨rfl, hsome id rfl⟩

theorem nodeStep_announce {s : Addressing n} (h : s.Inv builds) (i : Fin n) (now : UInt32) :
    s.NodeStep builds i ((s.nodes i).announce (builds i) now).1
      ((s.nodes i).announce (builds i) now).2 := by
  unfold IdNode.announce
  split
  · rename_i hannounce
    refine h.nodeStep_same i rfl rfl rfl ?_ ?_
    · intro frame hmem _
      obtain rfl := List.mem_singleton.mp hmem
      have hlocal := h.waiting i (h.unaddressed i hannounce.1)
      show (s.nodes i).canId.localCanId &&& CanIdAssign.idMask = CanIdAssign.provisionalId (builds i).uid
      rw [hlocal, CanIdAssign.provisionalId_masked]
    · intro frame hmem hcmd
      obtain rfl := List.mem_singleton.mp hmem
      cases hcmd
  · refine h.nodeStep_same i rfl rfl rfl ?_ ?_
    all_goals
      intro frame hmem
      cases hmem

/-- A SET_CAN_ID frame changes no address but that of the node its request is meant for. -/
theorem nodeStep_setCanId {s : Addressing n} (h : s.Inv builds) (i : Fin n) {frame : BusFrame}
    (hrequest : s.RequestSound builds frame) (saved : Bool) :
    s.NodeStep builds i ((s.nodes i).handleSetCanId (builds i) frame saved).1
      ((s.nodes i).handleSetCanId (builds i) frame saved).2 := by
  have hanswers : ∀ response, ∀ answer ∈ [(s.nodes i).send (.answer .SET_CAN_ID response)],
      (answer.cmd = .ANNOUNCE → answer.sender = CanIdAssign.provisionalId answer.data) ∧
        (CanIdAssign.unpack answer.data).newLocal = 0 := by
    intro response answer hmem
    obtain rfl := List.mem_singleton.mp hmem
    refine ⟨?_, CanIdAssign.newLocal_unpack_answer .SET_CAN_ID _⟩
    intro hcmd
    cases hcmd
  unfold IdNode.handleSetCanId
  simp only
  split
  · exact h.nodeStep_same i rfl rfl rfl (fun answer hmem => (hanswers _ answer hmem).1)
      (fun answer hmem _ => (hanswers _ answer hmem).2)
  rename_i hacceptable
  obtain ⟨-, -, hexpected, hassignable, -⟩ := CanIdAssign.isAcceptable_iff.mp (by simpa using hacceptable)
  have hzero := (CanIdAssign.isAssignableId_iff.mp hassignable).1
  rcases hrequest with hanswer | ⟨uid, id, hnamed, hunpack, honly⟩
  · exact absurd hanswer hzero
  rw [hunpack] at hexpected hassignable
  -- An addressed node is not on the address the request expects.
  have hnone : (s.nodes i).stored = none := by
    cases hs : (s.nodes i).stored with
    | none => rfl
    | some canId =>
      obtain ⟨hcanId, hlocal⟩ := h.addressed i canId hs
      refine absurd ?_ (CanIdAssign.assignable_ne_provisionalId hlocal uid)
      rw [← hcanId]
      exact hexpected.symm
  have huid : (builds i).uid = uid := by
    apply honly i hnone
    rw [← h.waiting i hnone]
    exact hexpected.symm
  split
  · have hmasked := CanIdAssign.assignable_masked hassignable
    have hsome : ∀ canId, some (IdNode.masked ⟨(s.nodes i).canId.masterCanId,
      (CanIdAssign.unpack frame.data).newLocal⟩)
        = some canId → CanIdAssign.isAssignableId canId.localCanId = true ∧
          (some (builds i).uid, canId.localCanId) ∈ s.named := by
      intro canId hcanId
      cases hcanId
      simp only [IdNode.masked, hunpack]
      rw [hmasked, huid]
      exact ⟨hassignable, hnamed⟩
    apply nodeStep_init _ hsome (fun answer hmem => (hanswers _ answer hmem).1)
      (fun answer hmem _ => (hanswers _ answer hmem).2)
    intro hfalse
    cases hfalse
  · refine h.nodeStep_same i ?_ rfl rfl (fun answer hmem => (hanswers _ answer hmem).1)
      (fun answer hmem _ => (hanswers _ answer hmem).2)
    exact hnone.symm

/-! ## What the gateway can do -/

theorem Inv.commissioner {s : Addressing n} (h : s.Inv builds) {c : CanCommissioner}
    (htable : ∀ entry ∈ c.waiting, entry.inUse = true → entry.provisionalId = CanIdAssign.provisionalId entry.uid) :
    ({ s with commissioner := c } : Addressing n).Inv builds :=
  ⟨h.unaddressed, h.waiting, h.addressed, h.announced, htable, h.requests, h.fresh, h.meant⟩

theorem inv_hear {s : Addressing n} (h : s.Inv builds) {frame : BusFrame} (hmem : frame ∈ s.bus) (now : UInt32) :
    ({ s with commissioner := s.commissioner.noteAnnouncement frame now } : Addressing n).Inv builds := by
  apply h.commissioner
  intro entry hentry hinUse
  rcases CanCommissioner.mem_noteAnnouncement hentry with hbefore | ⟨hcmd, rfl⟩
  · exact h.table entry hbefore hinUse
  · exact h.announced frame hmem hcmd

theorem inv_forget {s : Addressing n} (h : s.Inv builds) (now : UInt32) :
    ({ s with commissioner := s.commissioner.run now } : Addressing n).Inv builds := by
  apply h.commissioner
  intro entry hentry hinUse
  rcases CanCommissioner.mem_run hentry with hbefore | hfree
  · exact h.table entry hbefore hinUse
  · rw [hfree] at hinUse
    cases hinUse

theorem inv_assign {s : Addressing n} (h : s.Inv builds) {uidHex : Option String} {newLocalCanId : UInt16}
    {io : AssignIo} (hdistinct : s.Distinct (.assign uidHex newLocalCanId io))
    (honly : s.Unambiguous builds gateway (.assign uidHex newLocalCanId io)) :
    (s.step builds gateway (.assign uidHex newLocalCanId io)).Inv builds := by
  have hframes := CanCommissioner.assign_cases s.commissioner gateway io uidHex newLocalCanId
  have hnew : ∀ frame ∈ (s.commissioner.assign gateway io uidHex newLocalCanId).2, frame.cmd = .SET_CAN_ID ∧
      (s.step builds gateway (.assign uidHex newLocalCanId io)).RequestSound builds frame := by
    intro frame hmem
    rcases hframes with hnil | ⟨entry, hentry, hinUse, huid, -, hsent⟩
    · rw [hnil] at hmem
      cases hmem
    · have hsends : (s.commissioner.assign gateway io uidHex newLocalCanId).2 ≠ [] := by
        rw [hsent]
        exact List.cons_ne_nil _ _
      have hentryId := h.table entry hentry hinUse
      rw [hsent] at hmem
      obtain rfl := List.mem_singleton.mp hmem
      refine ⟨rfl, Or.inr ⟨entry.uid, newLocalCanId, ?_, ?_, ?_⟩⟩
      · show _ ∈ s.named ++ [(CanCommissioner.parseUid uidHex, newLocalCanId)]
        rw [huid]
        exact List.mem_append_right _ (List.mem_singleton.mpr rfl)
      · rw [CanIdAssign.unpack_pack, hentryId]
      · exact honly hsends entry.uid huid
  constructor
  case unaddressed => exact h.unaddressed
  case waiting => exact h.waiting
  case addressed => exact h.addressed
  case table => exact h.table
  case announced =>
    intro frame hmem hcmd
    rcases List.mem_append.mp hmem with hmem | hmem
    · exact h.announced frame hmem hcmd
    · rw [(hnew frame hmem).1] at hcmd
      cases hcmd
  case requests =>
    intro frame hmem hcmd
    rcases List.mem_append.mp hmem with hmem | hmem
    · exact (h.requests frame hmem hcmd).mono (fun _ hp => List.mem_append_left _ hp) (fun _ hj => hj)
    · exact (hnew frame hmem).2
  case fresh =>
    show ((s.named ++ [(CanCommissioner.parseUid uidHex, newLocalCanId)]).map Prod.snd).Nodup
    rw [List.map_append, List.map_singleton]
    apply List.Nodup.append h.fresh (List.nodup_singleton _)
    intro id hmem hid
    obtain rfl := List.mem_singleton.mp hid
    obtain ⟨p, hp, hpid⟩ := List.mem_map.mp hmem
    exact hdistinct.2 p hp hpid
  case meant =>
    intro i id hid
    exact List.mem_append_left _ (h.meant i id hid)

/-! ## Runs -/

theorem step_cases {s : Addressing n} {op : AddressingOp n} (h : s.Inv builds)
    (hop : s.Distinct op ∧ s.Unambiguous builds gateway op) :
    ((s.step builds gateway op).Inv builds ∧ (s.step builds gateway op).nodes = s.nodes) ∨
    ∃ i frames node, s.step builds gateway op = s.put i frames node ∧ s.NodeStep builds i frames node := by
  cases op with
  | announce i now => exact Or.inr ⟨i, _, _, rfl, nodeStep_announce h i now⟩
  | hear k now =>
    left
    simp only [step]
    split
    · exact ⟨h, rfl⟩
    rename_i frame hk
    split
    · exact ⟨inv_hear h (List.mem_of_getElem? hk) now, rfl⟩
    · exact ⟨h, rfl⟩
  | forget now => exact Or.inl ⟨inv_forget h now, rfl⟩
  | assign uidHex newLocalCanId io => exact Or.inl ⟨inv_assign h hop.1 hop.2, rfl⟩
  | deliver k i saved =>
    simp only [step]
    split
    · exact Or.inl ⟨h, rfl⟩
    rename_i frame hk
    split
    · rename_i htakes
      have hrequest := h.requests frame (List.mem_of_getElem? hk) htakes.2
      exact Or.inr ⟨i, _, _, rfl, nodeStep_setCanId h i hrequest saved⟩
    · exact Or.inl ⟨h, rfl⟩
  | restart i =>
    have hframes : ∀ frame ∈ ([] : List BusFrame), False := by
      intro frame hmem
      cases hmem
    refine Or.inr ⟨i, [], _, rfl, ?_⟩
    exact nodeStep_init (fun hnone => hnone)
      (fun canId hcanId => ⟨(h.addressed i canId hcanId).2, h.meant i canId hcanId⟩)
      (fun frame hmem => absurd hmem (hframes frame)) (fun frame hmem => absurd hmem (hframes frame))

theorem inv_step (s : Addressing n) (op : AddressingOp n) (h : s.Inv builds)
    (hop : s.Distinct op ∧ s.Unambiguous builds gateway op) : (s.step builds gateway op).Inv builds := by
  rcases step_cases h hop with ⟨hinv, -⟩ | ⟨i, frames, node, hstep, hnode⟩
  · exact hinv
  · rw [hstep]
    exact h.put hnode

theorem stored_changes {s : Addressing n} {op : AddressingOp n} (h : s.Inv builds)
    (hop : s.Distinct op ∧ s.Unambiguous builds gateway op) {i : Fin n}
    (hchange : ((s.step builds gateway op).nodes i).stored ≠ (s.nodes i).stored) :
    ∃ id, ((s.step builds gateway op).nodes i).stored = some id ∧
      (some (builds i).uid, id.localCanId) ∈ s.named := by
  rcases step_cases h hop with ⟨-, hnodes⟩ | ⟨j, frames, node, hstep, hnode⟩
  · rw [hnodes] at hchange
    exact absurd rfl hchange
  rw [hstep] at hchange ⊢
  by_cases hij : i = j
  · subst hij
    rw [put_nodes, Function.update_self] at hchange ⊢
    cases hs : node.stored with
    | none =>
      rw [hs, (hnode.waiting hs).1] at hchange
      exact absurd rfl hchange
    | some id => exact ⟨id, rfl, (hnode.addressed id hs).2.2⟩
  · rw [put_nodes, Function.update_of_ne hij] at hchange
    exact absurd rfl hchange

theorem Inv.safe {s : Addressing n} (h : s.Inv builds) (huids : Function.Injective fun i => (builds i).uid) :
    s.Safe builds where
  distinct := by
    intro i j idI idJ hi hj hlocal
    have hpi := h.meant i idI hi
    have hpj := h.meant j idJ hj
    -- The two calls gave the same address, so they are one call.
    have hpair := List.inj_on_of_nodup_map h.fresh hpi hpj hlocal
    exact huids (Option.some.inj (congrArg Prod.fst hpair))
  named := h.meant

/-- In every run that gives distinct addresses, and sends no request to an address two nodes are waiting on, no two
nodes hold the same stored address, and a stored address changes only to one given to the unique id of its node. -/
theorem addresses_unique (builds : Fin n → NodeBuild) (gateway : CanId)
    (huids : Function.Injective fun i => (builds i).uid) (es : List (AddressingOp n))
    (hmeets : Machine.Meets (step builds gateway) (fun s op => s.Distinct op ∧ s.Unambiguous builds gateway op)
      (init builds) es) :
    (Machine.run (step builds gateway) (init builds) es).Safe builds ∧
    ∀ op, (Machine.run (step builds gateway) (init builds) es).Distinct op ∧
        (Machine.run (step builds gateway) (init builds) es).Unambiguous builds gateway op →
      ∀ i, (((Machine.run (step builds gateway) (init builds) es).step builds gateway op).nodes i).stored ≠
          ((Machine.run (step builds gateway) (init builds) es).nodes i).stored →
        ∃ id, (((Machine.run (step builds gateway) (init builds) es).step builds gateway op).nodes i).stored =
            some id ∧
          (some (builds i).uid, id.localCanId) ∈ (Machine.run (step builds gateway) (init builds) es).named := by
  have hinv : (Machine.run (step builds gateway) (init builds) es).Inv builds :=
    Machine.run_inv inv_step inv_init hmeets
  refine ⟨hinv.safe huids, ?_⟩
  intro op hop i hchange
  exact stored_changes hinv hop hchange

def pair : Fin 2 → NodeBuild
  | 0 => ⟨#v[0xD1, 0x64, 0x2C, 0x8F, 0x13, 0x55, 0x2A, 0x21], 10⟩
  | 1 => ⟨#v[0xD1, 0x64, 0x2C, 0x8F, 0x13, 0x55, 0x2A, 0x22], 10⟩

/-- Both nodes announce themselves, one is given an address, and the request reaches whoever listens. -/
def bothHear (first second : Fin 2) : List (AddressingOp 2) :=
  [.announce first 6000, .announce second 6001, .hear 0 6002, .hear 1 6003,
    .assign (some "d1642c8f13552a21") 26 ⟨fun _ => false, true⟩, .deliver 2 first true, .deliver 2 second true]

theorem addresses_unique_pair : (Machine.run (step pair ⟨10, 10⟩) (init pair) (bothHear 0 1)).Safe pair := by
  have huids : ∀ i j, (pair i).uid = (pair j).uid → i = j := by decide
  have hprovisional : ∀ i, CanIdAssign.provisionalId (pair i).uid = CanIdAssign.provisionalId (pair 0).uid →
      i = 0 := by
    decide +kernel
  have hparse : CanCommissioner.parseUid (some "d1642c8f13552a21") = some (pair 0).uid := by decide +kernel
  refine (addresses_unique pair ⟨10, 10⟩ huids (bothHear 0 1)
    ⟨⟨trivial, trivial⟩, ⟨trivial, trivial⟩, ⟨trivial, trivial⟩, ⟨trivial, trivial⟩, ⟨⟨by decide, ?_⟩, ?_⟩,
      ⟨trivial, trivial⟩, ⟨trivial, trivial⟩, trivial⟩).1
  · intro p hp
    cases hp
  · intro _ uid huid i _ hsame
    rw [hparse] at huid
    cases huid
    rw [hprovisional i hsame]

/-! ## Two nodes on one address -/

def twins : Fin 2 → NodeBuild
  | 0 => ⟨#v[0xD1, 0x64, 0x2C, 0x8F, 0x13, 0x55, 0x2A, 0x21], 10⟩
  | 1 => ⟨#v[0xD1, 0x64, 0x2C, 0x8F, 0x13, 0x55, 0x02, 0x84], 10⟩

theorem twins_uids : Function.Injective fun i => (twins i).uid := by
  have h : ∀ i j, (twins i).uid = (twins j).uid → i = j := by decide
  exact h

theorem addresses_not_unique :
    ¬ ∀ (n : Nat) (builds : Fin n → NodeBuild) (gateway : CanId) (es : List (AddressingOp n)),
      (Function.Injective fun i => (builds i).uid) → Machine.Meets (step builds gateway) Distinct (init builds) es →
      (Machine.run (step builds gateway) (init builds) es).Safe builds := by
  intro hclaim
  have hmeets : Machine.Meets (step twins ⟨10, 10⟩) Distinct (init twins) (bothHear 0 1) := by
    refine ⟨trivial, trivial, trivial, trivial, ⟨by decide, ?_⟩, trivial, trivial, trivial⟩
    intro p hp
    cases hp
  have hsafe := hclaim 2 twins ⟨10, 10⟩ (bothHear 0 1) twins_uids hmeets
  have hfirst : ((Machine.run (step twins ⟨10, 10⟩) (init twins) (bothHear 0 1)).nodes 0).stored = some
      ⟨10, 26⟩ := by
    decide +kernel
  have hsecond : ((Machine.run (step twins ⟨10, 10⟩) (init twins) (bothHear 0 1)).nodes 1).stored = some
      ⟨10, 26⟩ := by
    decide +kernel
  have hsame := hsafe.distinct 0 1 _ _ hfirst hsecond rfl
  cases hsame

end Addressing

end CanSystems
