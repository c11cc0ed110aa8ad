import Mathlib
import HostTools.Output

set_option autoImplicit false

namespace HostTools

namespace Sink

theorem write_all_free (chunks writes : List Bytes) :
    writeAll ⟨none, chunks⟩ writes = (⟨none, writes.reverse ++ chunks⟩, none) := by
  induction writes generalizing chunks with
  | nil => rfl
  | cons bytes more ih =>
      have step : writeAll ⟨none, chunks⟩ (bytes :: more) = writeAll ⟨none, bytes :: chunks⟩ more := rfl
      rw [step, ih, List.reverse_cons, List.append_assoc]
      rfl

theorem content_reversed (room : Option Nat) (writes : List Bytes) : content ⟨room, writes.reverse⟩ = writes.flatten := by
  simp [content]

theorem write_all_unlimited (writes : List Bytes) :
    ∃ sink, unlimited.writeAll writes = (sink, none) ∧ sink.content = writes.flatten := by
  refine ⟨⟨none, writes.reverse⟩, ?_, content_reversed none writes⟩
  rw [unlimited, write_all_free, List.append_nil]

theorem content_cons (room : Option Nat) (bytes : Bytes) (chunks : List Bytes) :
    content ⟨room, bytes :: chunks⟩ = content ⟨room, chunks⟩ ++ bytes := by
  simp [content]

theorem write_all_room (room : Nat) (chunks writes : List Bytes) :
    (writeAll ⟨some room, chunks⟩ writes).1.content = content ⟨some room, chunks⟩ ++ writes.flatten.take room ∧
      (writeAll ⟨some room, chunks⟩ writes).2 = if room < writes.flatten.length then some .noRoom else none := by
  induction writes generalizing room chunks with
  | nil => simp [writeAll]
  | cons bytes more ih =>
      rw [List.flatten_cons, List.length_append]
      by_cases fits : bytes.length ≤ room
      · have step : writeAll ⟨some room, chunks⟩ (bytes :: more) =
            writeAll ⟨some (room - bytes.length), bytes :: chunks⟩ more := by
          simp [writeAll, write, fits]
        have same : room - bytes.length < more.flatten.length ↔ room < bytes.length + more.flatten.length := by omega
        obtain ⟨further, failure⟩ := ih (room - bytes.length) (bytes :: chunks)
        rw [step, further, failure, content_cons, List.take_append, List.take_of_length_le fits, List.append_assoc]
        exact ⟨rfl, if_congr same rfl rfl⟩
      · -- The first write that does not fit fills the room, so what comes after it adds nothing.
        have step : writeAll ⟨some room, chunks⟩ (bytes :: more) =
            (⟨some 0, bytes.take room :: chunks⟩, some .noRoom) := by
          simp [writeAll, write, fits]
        have beyond : room < bytes.length + more.flatten.length := by omega
        rw [step, if_pos beyond, content_cons, List.take_append_of_le_length (by omega)]
        exact ⟨rfl, rfl⟩

theorem write_all_limited (limit : Nat) (writes : List Bytes) :
    ((limited limit).writeAll writes).1.content = writes.flatten.take limit ∧
      ((limited limit).writeAll writes).2 = if limit < writes.flatten.length then some .noRoom else none :=
  write_all_room limit [] writes

end Sink

namespace Outputs

def sent (channel : Channel) (writes : List (Channel × Bytes)) : List Bytes :=
  (writes.filter fun write => write.1 = channel).map Prod.snd

theorem write_all_free (out err : List Bytes) (writes : List (Channel × Bytes)) :
    writeAll ⟨⟨none, out⟩, ⟨none, err⟩⟩ writes =
      (⟨⟨none, (sent .out writes).reverse ++ out⟩, ⟨none, (sent .err writes).reverse ++ err⟩⟩, none) := by
  induction writes generalizing out err with
  | nil => rfl
  | cons write more ih =>
      obtain ⟨channel, bytes⟩ := write
      cases channel with
      | out =>
          have step : writeAll ⟨⟨none, out⟩, ⟨none, err⟩⟩ ((.out, bytes) :: more) =
              writeAll ⟨⟨none, bytes :: out⟩, ⟨none, err⟩⟩ more := rfl
          rw [step, ih]
          simp [sent]
      | err =>
          have step : writeAll ⟨⟨none, out⟩, ⟨none, err⟩⟩ ((.err, bytes) :: more) =
              writeAll ⟨⟨none, out⟩, ⟨none, bytes :: err⟩⟩ more := rfl
          rw [step, ih]
          simp [sent]

theorem write_all_unlimited (writes : List (Channel × Bytes)) :
    ∃ outputs, unlimited.writeAll writes = (outputs, none) ∧ outputs.out.content = (sent .out writes).flatten ∧
      outputs.err.content = (sent .err writes).flatten := by
  refine ⟨⟨⟨none, (sent .out writes).reverse⟩, ⟨none, (sent .err writes).reverse⟩⟩, ?_,
    Sink.content_reversed none _, Sink.content_reversed none _⟩
  rw [unlimited, Sink.unlimited, write_all_free, List.append_nil, List.append_nil]

-- All writes go to one channel, so that a full one cannot keep anything from the other.
def Single (channel : Channel) (writes : List (Channel × Bytes)) : Prop := ∀ write ∈ writes, write.1 = channel

theorem sent_single (channel : Channel) (writes : List (Channel × Bytes)) (single : Single channel writes) :
    sent channel writes = writes.map Prod.snd ∧ ∀ other, other ≠ channel → sent other writes = [] := by
  constructor
  · rw [sent, List.filter_eq_self.mpr fun write member => by simp [single write member]]
  · intro other apart
    rw [sent, List.filter_eq_nil_iff.mpr fun write member => by simp [single write member, apart.symm], List.map_nil]

def sink (outputs : Outputs) : Channel → Sink
  | .out => outputs.out
  | .err => outputs.err

def withSink (outputs : Outputs) : Channel → Sink → Outputs
  | .out, sink => { outputs with out := sink }
  | .err, sink => { outputs with err := sink }

theorem write_eq (outputs : Outputs) (channel : Channel) (bytes : Bytes) :
    outputs.write channel bytes =
      (outputs.withSink channel ((outputs.sink channel).write bytes).1, ((outputs.sink channel).write bytes).2) := by
  cases channel <;> rfl

theorem sink_own (outputs : Outputs) (channel : Channel) : outputs.withSink channel (outputs.sink channel) = outputs := by
  cases channel <;> rfl

theorem sink_new (outputs : Outputs) (channel : Channel) (sink other : Sink) :
    (outputs.withSink channel sink).sink channel = sink ∧
      (outputs.withSink channel sink).withSink channel other = outputs.withSink channel other := by
  cases channel <;> exact ⟨rfl, rfl⟩

theorem write_all_single (channel : Channel) (outputs : Outputs) (writes : List (Channel × Bytes))
    (single : Single channel writes) :
    outputs.writeAll writes =
      (outputs.withSink channel ((outputs.sink channel).writeAll (writes.map Prod.snd)).1,
        ((outputs.sink channel).writeAll (writes.map Prod.snd)).2) := by
  induction writes generalizing outputs with
  | nil =>
      rw [List.map_nil, Sink.writeAll, sink_own]
      rfl
  | cons write more ih =>
      obtain ⟨own, bytes⟩ := write
      obtain rfl : own = channel := single _ List.mem_cons_self
      have later : Single own more := fun write member => single write (List.mem_cons_of_mem _ member)
      rw [writeAll, write_eq, List.map_cons, Sink.writeAll]
      -- A write that fails ends the run, in the sink and in the outputs alike.
      cases (outputs.sink own).write bytes with
      | mk next whole =>
          cases whole with
          | true =>
              have further := ih (outputs.withSink own next) later
              rw [(sink_new outputs own next next).1, (sink_new outputs own next _).2] at further
              exact further
          | false => rfl

theorem write_all_limited (channel : Channel) (writes : List (Channel × Bytes)) (single : Single channel writes)
    (out err : Nat) :
    ∃ outputs error, writeAll ⟨.limited out, .limited err⟩ writes = (outputs, error) ∧
      outputs.out.content = (sent .out writes).flatten.take out ∧
      outputs.err.content = (sent .err writes).flatten.take err ∧
      error = if out < (sent .out writes).flatten.length ∨ err < (sent .err writes).flatten.length then some .noRoom
        else none := by
  obtain ⟨own, others⟩ := sent_single channel writes single
  refine ⟨_, _, write_all_single channel _ writes single, ?_⟩
  rw [← own]
  cases channel with
  | out =>
      obtain ⟨content, failure⟩ := Sink.write_all_limited out (sent .out writes)
      rw [others .err (by decide)]
      exact ⟨content, List.take_nil.symm, failure.trans (if_congr (by simp) rfl rfl)⟩
  | err =>
      obtain ⟨content, failure⟩ := Sink.write_all_limited err (sent .err writes)
      rw [others .out (by decide)]
      exact ⟨List.take_nil.symm, content, failure.trans (if_congr (by simp) rfl rfl)⟩

end Outputs

end HostTools
