import VmMonitor.Proofs.Virtio.Outward

/-!
What a console and a network link send. A console passes on the bytes of its chains, piece by piece;
a link takes each chain for one frame behind a header, however the two are cut into buffers, and
drops what cannot be one.
-/

namespace VmMonitor

open GuestMemory SplitQueue DescriptorChain Virtio Virtio.Service

namespace Console

variable {m₀ : GuestMemory} {sink : Sink} {effects : Array Effect}

-- A terminal that takes whatever is written to it. It may still refuse to be flushed.
def Accepts (sink : Sink) : Prop := ∀ calls, sink.refusal calls .transfer = none

theorem offerPiece_accepted (accepts : Accepts sink) (piece : List UInt8) :
    offerPiece (sink, effects) piece =
      (.ok (), { sink with calls := sink.calls + 1 }, effects.push (.terminal piece true)) := by
  unfold offerPiece Sink.call
  rw [accepts]

theorem consume_accepted (accepts : Accepts sink) (effects : Array Effect)
    (pieces : List (List UInt8)) :
    ∃ calls effects',
      consume offerPiece pieces (sink, effects) = (.ok (), { sink with calls := calls }, effects') ∧
      effects'.toList.flatMap Effect.terminalBytes =
        effects.toList.flatMap Effect.terminalBytes ++ pieces.flatten := by
  induction pieces generalizing sink effects with
  | nil => exact ⟨sink.calls, effects, rfl, (List.append_nil _).symm⟩
  | cons piece rest ih =>
      have later : Accepts { sink with calls := sink.calls + 1 } := accepts
      obtain ⟨calls, effects', taken, out⟩ := ih later (effects.push (.terminal piece true))
      refine ⟨calls, effects', ?_, ?_⟩
      · rw [consume, offerPiece_accepted accepts]
        exact taken
      · rw [out, Array.toList_push, List.flatMap_append, List.flatMap_singleton,
          List.flatten_cons, List.append_assoc]
        rfl

theorem terminalOutput_logged (m : Medium) (text : String) :
    (m.logError text).terminalOutput = m.terminalOutput := by
  unfold Medium.logError Medium.log Medium.emit Medium.terminalOutput
  rw [Array.toList_push, List.flatMap_append]
  exact List.append_nil _

theorem transmit_emits : transmitService.Emits m₀ (Accepts ·.sink) (fun _ => True)
    Medium.terminalOutput id where
  wants _ := rfl
  quiet {c m chain written c' m'} worked := by
    obtain ⟨_, _, _, done, _, same⟩ := transmit_effect c m chain
    cases worked.symm.trans done
    exact same
  stored _ _ := rfl
  works {c m chain} sound _ placed accepts _ := by
    have held := pieces_held sound fun d here => placed d (List.mem_filter.mp here).1
    obtain ⟨calls, effects, taken, out⟩ := consume_accepted accepts m.effects
      (chain.pieces.map fun p => m.memory.contents p.1 p.2)
    rw [pieces_joined] at out
    have read : chain.readPieces m.memory offerPiece (c.sink, m.effects) =
        (.ok (), { c.sink with calls := calls }, effects) := by
      rw [readPieces, feed_consume sound held, taken]
      rfl
    change ∃ c' m', c.transmit m chain = .ok (0, c', m') ∧ _
    unfold transmit
    rw [read]
    dsimp only
    unfold Sink.call
    dsimp only
    cases c.sink.refusal calls .flush with
    | none => exact ⟨_, _, rfl, accepts, out⟩
    | some reason =>
        refine ⟨_, _, rfl, accepts, ?_⟩
        rw [terminalOutput_logged]
        exact out

-- A console whose terminal takes everything, and a queue with any number of chains.
theorem transmit_output [Host] {ranges : List (GuestAddress × UInt64)} {c : Console} {m : Medium}
    {rings : Rings} {q : SplitQueue} {chains : List DescriptorChain}
    (built : GuestMemory.new ranges = .ok m₀) (layout : m.memory.layout = m₀.layout)
    (found : ring? rings txQueue = some q) (activated : q.Activated)
    (presents : q.Presents m.memory chains) (accepts : Accepts c.sink) :
    ∃ served, VirtioDevice.notify c m rings txQueue = .ok served ∧
      Transmitted c m rings txQueue q chains served ∧
      served.medium.terminalOutput =
        m.terminalOutput ++ chains.flatMap (fun chain => joined m.memory chain.readable) ∧
      VirtioDevice.notify served.device served.medium served.rings txQueue =
        .ok ⟨false, served.device, served.rings, served.medium⟩ :=
  transmit_emits.notifies (new_sound built) rfl layout found activated presents accepts
    fun _ _ => trivial

-- One chain of two buffers and one of a single buffer.
theorem transmit_output_split :
    ∃ m₀ m rings chains served, GuestMemory.new [(0, 0x10000)] = .ok m₀ ∧
      ring? rings txQueue = some sendRing ∧ sendRing.Presents m chains ∧ chains.length = 2 ∧
      VirtioDevice.notify (Console.new .accepting) ⟨m, #[]⟩ rings txQueue = .ok served ∧
      served.medium.terminalOutput = [104, 105, 33, 111, 107, 10] ∧
      VirtioDevice.notify served.device served.medium served.rings txQueue =
        .ok ⟨false, served.device, served.rings, served.medium⟩ := by
  let chains : List DescriptorChain :=
    [⟨0, [⟨0x4000, 2, .readable⟩, ⟨0x4100, 1, .readable⟩]⟩, ⟨2, [⟨0x4200, 3, .readable⟩]⟩]
  have ran : ((GuestMemory.new [(0, 0x10000)]).toOption.any fun m₀ =>
      (m₀.writeObject 0x1000 (Bytes.ofNat 0x4000 8 ++ Bytes.ofNat 2 4 ++ [1, 0, 1, 0] ++
        Bytes.ofNat 0x4100 8 ++ Bytes.ofNat 1 8 ++ Bytes.ofNat 0x4200 8 ++
        Bytes.ofNat 3 8)).toOption.any fun m =>
      (m.writeObject 0x2000 [0, 0, 2, 0, 0, 0, 2, 0]).toOption.any fun m =>
      (m.writeObject 0x4000 [104, 105]).toOption.any fun m =>
      (m.writeObject 0x4100 [33]).toOption.any fun m =>
      (m.writeObject 0x4200 [111, 107, 10]).toOption.any fun m =>
        m.layout = m₀.layout && m₀.layout = [(0, 0x10000)] &&
          sendRing.available m = chains.map .ok &&
          (chains.flatMap fun c => joined m c.readable) = [104, 105, 33, 111, 107, 10]) = true := by
    decide +kernel
  obtain ⟨m₀, built, ran⟩ := Checked.ok_of_any ran
  obtain ⟨_, _, ran⟩ := Checked.ok_of_any ran
  obtain ⟨_, _, ran⟩ := Checked.ok_of_any ran
  obtain ⟨_, _, ran⟩ := Checked.ok_of_any ran
  obtain ⟨_, _, ran⟩ := Checked.ok_of_any ran
  obtain ⟨m, _, ran⟩ := Checked.ok_of_any ran
  simp only [Bool.and_eq_true, decide_eq_true_eq] at ran
  obtain ⟨⟨⟨layout, regions⟩, offered⟩, bytes⟩ := ran
  have presents := sendRing_presents (layout.trans regions) offered (by decide)
  have found : ring? [none, some sendRing] txQueue = some sendRing := rfl
  obtain ⟨served, done, _, output, again⟩ := transmit_output (c := .new .accepting) (m := ⟨m, #[]⟩)
    built layout found sendRing_activated presents fun _ => rfl
  have none : Medium.terminalOutput ⟨m, #[]⟩ = [] := rfl
  rw [none, List.nil_append] at output
  exact ⟨m₀, m, _, chains, served, built, rfl, presents, rfl, done, output.trans bytes, again⟩

end Console

namespace Effect

-- What the network was offered, taken or not.
def offeredFrame? : Effect → Option (List UInt8)
  | frame bytes _ => some bytes
  | logged _ | serial _ | terminal .. => none

end Effect

def Medium.offeredFrames (m : Medium) : List (List UInt8) :=
  m.effects.toList.filterMap Effect.offeredFrame?

namespace Net

variable {m₀ : GuestMemory} {m : Medium}

-- The frame in the bytes of a chain, if there are enough of them and not too many.
def frame? (data : List UInt8) : Option (List UInt8) :=
  if 12 ≤ data.length ∧ data.length ≤ 12 + 65562 then some (data.drop 12) else none

theorem offeredFrames_emit (m : Medium) (e : Effect) :
    (m.emit e).offeredFrames = m.offeredFrames ++ e.offeredFrame?.toList := by
  unfold Medium.emit Medium.offeredFrames
  rw [Array.toList_push, List.filterMap_append]
  cases e <;> rfl

theorem offeredFrames_log (m : Medium) (r : Log.Record) :
    (m.log r).offeredFrames = m.offeredFrames := by
  unfold Medium.log
  rw [offeredFrames_emit]
  exact List.append_nil _

theorem send_offers (n : Net) (m : Medium) (frame : List UInt8) :
    (n.send m frame).2.offeredFrames = m.offeredFrames ++ [frame] := by
  unfold send
  split
  · exact offeredFrames_emit ..
  · unfold Medium.logError
    rw [offeredFrames_log]
    exact offeredFrames_emit ..

theorem transmit_emits : transmitService.Emits m₀ (fun _ => True)
    (fun chain => ∀ d ∈ chain.readable, m₀.Mapped d.address) Medium.offeredFrames
    (fun data => (frame? data).toList) where
  wants _ := rfl
  quiet {n m chain written n' m'} worked := by
    obtain ⟨_, _, _, done, _, same⟩ := transmit_effect n m chain
    cases worked.symm.trans done
    exact same
  stored _ _ := rfl
  works {n m chain} sound layout placed _ mapped := by
    have held : ∀ d ∈ chain.readable, m.memory.Holds d.address d.len.toNat :=
      placed_held (fun d here => placed d (List.mem_filter.mp here).1) fun d here _ =>
        (Mapped.congr layout).mpr (mapped d here)
    have size : (joined m.memory chain.readable).length = chain.readableLen :=
      length_joined m.memory chain.readable
    change ∃ n' m', n.transmit m chain = .ok (0, n', m') ∧ _
    unfold transmit frame?
    dsimp only
    rw [size]
    by_cases short : chain.readableLen < headerLen
    · rw [if_pos short, if_neg fun fits => Nat.not_lt.mpr fits.1 short]
      refine ⟨_, _, rfl, trivial, ?_⟩
      exact (offeredFrames_log ..).trans (List.append_nil _).symm
    by_cases long : headerLen + maxFrame < chain.readableLen
    · rw [if_neg short, if_pos long, if_neg fun fits => Nat.not_lt.mpr fits.2 long]
      refine ⟨_, _, rfl, trivial, ?_⟩
      exact (offeredFrames_log ..).trans (List.append_nil _).symm
    have read : chain.readAll m.memory (headerLen + maxFrame) =
        .ok (joined m.memory chain.readable) := by
      rw [readAll, if_neg long, readBuffers_held sound held]
      rfl
    have sliced : Checked.slice (joined m.memory chain.readable) headerLen
        ((joined m.memory chain.readable).length - headerLen) =
          .ok ((joined m.memory chain.readable).drop headerLen) := by
      rw [Checked.slice, if_pos (by omega), List.take_of_length_le (by simp)]
    rw [if_neg short, if_neg long, read, if_pos ⟨Nat.not_lt.mp short, Nat.not_lt.mp long⟩]
    simp only [sliced, bind, Except.bind, pure, Except.pure]
    exact ⟨_, _, rfl, trivial, send_offers ..⟩

-- Every chain is taken for one frame at most, and given back whatever becomes of it.
theorem transmit_frames [Host] {ranges : List (GuestAddress × UInt64)} {n : Net}
    {rings : Rings} {q : SplitQueue} {chains : List DescriptorChain}
    (built : GuestMemory.new ranges = .ok m₀) (layout : m.memory.layout = m₀.layout)
    (found : ring? rings txQueue = some q) (activated : q.Activated)
    (presents : q.Presents m.memory chains)
    (mapped : ∀ chain ∈ chains, ∀ d ∈ chain.readable, m.memory.Mapped d.address) :
    ∃ served, VirtioDevice.notify n m rings txQueue = .ok served ∧
      Transmitted n m rings txQueue q chains served ∧
      served.medium.offeredFrames =
        m.offeredFrames ++ chains.filterMap fun chain => frame? (joined m.memory chain.readable) := by
  obtain ⟨served, done, transmitted, offered, _⟩ := transmit_emits.notifies (new_sound built) rfl
    layout found activated presents trivial fun chain listed d here =>
      (Mapped.congr layout).mp (mapped chain listed d here)
  refine ⟨served, done, transmitted, ?_⟩
  rw [offered, List.filterMap_eq_flatMap_toList]

-- A frame whose header ends in its second buffer, for a network that refuses it, and a chain too
-- short for a header.
theorem transmit_frames_split :
    ∃ m₀ m rings chains served, GuestMemory.new [(0, 0x10000)] = .ok m₀ ∧
      ring? rings txQueue = some sendRing ∧ sendRing.Presents m chains ∧ chains.length = 2 ∧
      VirtioDevice.notify (Net.new (.refusing "down") []) ⟨m, #[]⟩ rings txQueue = .ok served ∧
      served.medium.offeredFrames = [[7, 8, 9]] := by
  let chains : List DescriptorChain :=
    [⟨0, [⟨0x4000, 10, .readable⟩, ⟨0x4100, 5, .readable⟩]⟩, ⟨2, [⟨0x4200, 3, .readable⟩]⟩]
  have ran : ((GuestMemory.new [(0, 0x10000)]).toOption.any fun m₀ =>
      (m₀.writeObject 0x1000 (Bytes.ofNat 0x4000 8 ++ Bytes.ofNat 10 4 ++ [1, 0, 1, 0] ++
        Bytes.ofNat 0x4100 8 ++ Bytes.ofNat 5 8 ++ Bytes.ofNat 0x4200 8 ++
        Bytes.ofNat 3 8)).toOption.any fun m =>
      (m.writeObject 0x2000 [0, 0, 2, 0, 0, 0, 2, 0]).toOption.any fun m =>
      (m.writeObject 0x4102 [7, 8, 9]).toOption.any fun m =>
        m.layout = m₀.layout && m₀.layout = [(0, 0x10000)] &&
          sendRing.available m = chains.map .ok &&
          chains.all (fun c => c.readable.all fun d => (m.byte? d.address).isSome) &&
          (chains.filterMap fun c => frame? (joined m c.readable)) = [[7, 8, 9]]) = true := by
    decide +kernel
  obtain ⟨m₀, built, ran⟩ := Checked.ok_of_any ran
  obtain ⟨_, _, ran⟩ := Checked.ok_of_any ran
  obtain ⟨_, _, ran⟩ := Checked.ok_of_any ran
  obtain ⟨m, _, ran⟩ := Checked.ok_of_any ran
  simp only [Bool.and_eq_true, decide_eq_true_eq, List.all_eq_true] at ran
  obtain ⟨⟨⟨⟨layout, regions⟩, offered⟩, mapped⟩, frames⟩ := ran
  have presents := sendRing_presents (layout.trans regions) offered (by decide)
  have found : ring? [none, some sendRing] txQueue = some sendRing := rfl
  obtain ⟨served, done, _, output⟩ := transmit_frames (n := .new (.refusing "down") [])
    (m := ⟨m, #[]⟩) built layout found sendRing_activated presents mapped
  have none : Medium.offeredFrames ⟨m, #[]⟩ = [] := rfl
  rw [none, List.nil_append] at output
  exact ⟨m₀, m, _, chains, served, built, rfl, presents, rfl, done, output.trans frames⟩

end Net

end VmMonitor
