import Mathlib
import HostTools.Machine
import HostTools.Proofs.Text.Encoding

set_option autoImplicit false

namespace HostTools

namespace Shell

theorem to_bytes_of_text (text : String) : toBytes (ofText text) = Bytes.ofText text := by
  simp only [toBytes, ofText, Bytes.asciiText, String.toList_ofList, List.map_map]
  apply List.map_id''
  exact Bytes.each_octet _ (by decide +kernel)

theorem to_bytes_append (front back : String) : toBytes (front ++ back) = toBytes front ++ toBytes back := by
  simp [toBytes]

theorem to_bytes_join (texts : List String) : toBytes (String.join texts) = texts.flatMap toBytes := by
  induction texts with
  | nil => rfl
  | cons text texts ih => rw [String.join_cons, to_bytes_append, ih, List.flatMap_cons]

theorem to_bytes_line (name value : String) :
    toBytes (ofText name ++ "=" ++ ofText value ++ "\n") = Bytes.ofText (name ++ "=" ++ value ++ "\n") := by
  -- Both marks are ASCII, so that they are one octet either way.
  have mark : toBytes "=" = Bytes.ofText "=" := by decide
  have turn : toBytes "\n" = Bytes.ofText "\n" := by decide
  simp only [to_bytes_append, to_bytes_of_text, mark, turn, Bytes.ofText, String.toList_append, Bytes.of_chars_append]

theorem run_bind {α β : Type} (act : Act α) (next : α → Act β) (before after : State) (value : α)
    (known : act.run.run before = (.ok value, after)) : (act >>= next).run.run before = (next value).run.run after := by
  change (do
    let (result, state) ← act.run.run before
    (ExceptT.bindCont next result).run state : Id _) = _
  rw [known]
  rfl

-- A tool with nothing to say writes nothing, not an empty text.
def State.printed (state : State) (text : String) : State :=
  let own := if text.isEmpty then [] else [⟨.output, state.process.clock, state.process.self, text⟩]
  { state with world := { state.world with written := own ++ state.world.written } }

theorem State.printed_silent (state : State) (text : String) (silent : text.isEmpty) : state.printed text = state := by
  rw [State.printed, if_pos silent]
  rfl

theorem put_printed (name text : String) (failing : Nat) (state : State)
    (shown : state.process.descriptors.lookup 1 = some .output) :
    (Tool.put name text failing).run.run state = (.ok 0, state.printed text) := by
  unfold Tool.put
  by_cases silent : text.isEmpty
  · rw [if_pos silent, state.printed_silent text silent]
    rfl
  · have wrote : (write 1 text).run.run state = (.ok none, state.printed text) := by
      rw [write, run_bind process _ state state state.process rfl, shown, State.printed, if_neg silent]
      rfl
    rw [if_neg silent, run_bind _ _ _ _ _ wrote]
    rfl

theorem run_deferred_idle (fuel : Nat) (state : State) (idle : state.world.deferred = []) :
    (runDeferred (fuel + 1)).run.run state = (.ok (), state) := by
  -- The first round finds nothing left behind, and is the last one.
  have first : rounds = (rounds - 1) + 1 := by decide
  rw [runDeferred, first, repeatWhile]
  apply run_bind _ _ state state false
  rw [run_bind world _ state state state.world rfl, idle]
  rfl

def lines (environment : List (String × String)) : String :=
  String.join (environment.map fun entry => entry.1 ++ "=" ++ entry.2 ++ "\n")

theorem env_alone (fuel : Nat) (name : String) (environment : List (String × String)) :
    tool (fuel + 2) "env" [name] environment = (.exited <$> Tool.put name (lines environment) 125) := by
  have called : tool (fuel + 2) "env" [name] environment = env (fuel + 1) name environment [] := by
    rw [tool]
    rfl
  have unread : Tool.arguments envForms false [] = .ok ⟨[], []⟩ := rfl
  rw [called, env, unread]
  simp [Tool.Arguments.has, lines]

end Shell

namespace Machine

-- One line for each entry, in their order.
def listing (environment : List (String × String)) : Bytes :=
  environment.flatMap fun entry => Bytes.ofText (entry.1 ++ "=" ++ entry.2 ++ "\n")

theorem collected_printed (state : Shell.State) (text : String) (fresh : state.world.written = []) :
    collected .output (state.printed text).world.written = Shell.toBytes text ∧
      collected .errors (state.printed text).world.written = [] := by
  by_cases silent : text.isEmpty
  · have empty : text = "" := by simpa using silent
    rw [state.printed_silent text silent, fresh, empty]
    simp [collected, Shell.toBytes]
  · simp [Shell.State.printed, collected, fresh, silent]

theorem listing_encoded (environment : List (String × String)) :
    Shell.toBytes (Shell.lines (environment.map fun entry => (Shell.ofText entry.1, Shell.ofText entry.2))) =
      listing environment := by
  simp only [Shell.lines, Shell.to_bytes_join, List.map_map, List.flatMap_map, Function.comp_def, Shell.to_bytes_line, listing]

theorem lists_run (fuel : Nat) (name : String) (environment : List (String × String)) (state : Shell.State)
    (shown : state.process.descriptors.lookup 1 = some .output) (idle : state.world.deferred = []) :
    (do
      let ended ← Shell.tool (fuel + 2) "env" [name] environment
      Shell.runDeferred (fuel + 2)
      pure ended : Shell.Act Shell.Ended).run.run state =
      (.ok (.exited 0), state.printed (Shell.lines environment)) := by
  have put := Shell.put_printed name (Shell.lines environment) 125 state shown
  have listed : (Shell.tool (fuel + 2) "env" [name] environment).run.run state =
      (.ok (.exited 0), state.printed (Shell.lines environment)) := by
    rw [Shell.env_alone, map_eq_pure_bind, Shell.run_bind _ _ _ _ _ put]
    rfl
  have rested := Shell.run_deferred_idle (fuel + 1) (state.printed (Shell.lines environment)) idle
  rw [Shell.run_bind _ _ _ _ _ listed, Shell.run_bind _ _ _ _ _ rested]
  rfl

theorem child_lists (machine : Machine) (place : Place) (name : String) (environment : List (String × String)) :
    machine.child place "env" [name] environment = ⟨.ofExit 0, listing environment, []⟩ := by
  have deep : depth = 99998 + 2 := rfl
  unfold child
  dsimp only
  rw [deep, List.map_singleton, lists_run _ _ _ _ rfl rfl]
  dsimp only
  rw [(collected_printed _ _ rfl).1, (collected_printed _ _ rfl).2]
  congr 1
  exact listing_encoded environment

end Machine

end HostTools
