import Mathlib
import HostTools.Arguments.Parser
import HostTools.Proofs.Text.Pieces

set_option autoImplicit false

namespace HostTools

def OutputFormat.name : OutputFormat → String
  | .text => "text"
  | .json => "json"

inductive ExecOption where
  | cwd (dir : String)
  | clearEnv
  | env (assignment : String)
  | format (output : OutputFormat)
  | logFormat (name : String)
deriving DecidableEq, Repr

namespace ExecOption

def arg : ExecOption → String
  | .cwd dir => "--cwd=" ++ dir
  | .clearEnv => "--clear-env"
  | .env assignment => "--env=" ++ assignment
  | .format output => "--format=" ++ output.name
  | .logFormat name => "--log-format=" ++ name

def key : ExecOption → OptionKey
  | .cwd _ => .cwd
  | .clearEnv => .clearEnv
  | .env _ => .env
  | .format _ => .format
  | .logFormat _ => .logFormat

def value : ExecOption → String
  | .cwd dir => dir
  | .clearEnv => ""
  | .env assignment => assignment
  | .format output => output.name
  | .logFormat name => name

def entry (option : ExecOption) : OptionKey × String := (option.key, option.value)

-- The option may come before the name of the command, too.
def IsGlobal (option : ExecOption) : Prop := option.key ∈ Topic.program.keys

instance : DecidablePred IsGlobal := fun _ => inferInstanceAs (Decidable (_ ∈ _))

def cwd? : ExecOption → Option String
  | .cwd dir => some dir
  | _ => none

def env? : ExecOption → Option String
  | .env assignment => some assignment
  | _ => none

def format? : ExecOption → Option OutputFormat
  | .format output => some output
  | _ => none

def logFormat? : ExecOption → Option String
  | .logFormat name => some name
  | _ => none

def Compatible (a b : ExecOption) : Prop := a.key = b.key → a.key = .env

instance : DecidableRel Compatible := fun _ _ => inferInstanceAs (Decidable (_ → _))

instance : Std.Symm Compatible := ⟨fun _ _ compatible same => same ▸ compatible same.symm⟩

-- No option is given twice, assignments apart.
def Unrepeated (options : List ExecOption) : Prop := options.Pairwise Compatible

instance : DecidablePred Unrepeated := fun _ => inferInstanceAs (Decidable (List.Pairwise _ _))

def line (front back : List ExecOption) (argv : List String) : List String :=
  front.map arg ++ "exec" :: (back.map arg ++ "--" :: argv)

def invocation (environment : Environment) (options : List ExecOption) (argv : List String) : Invocation where
  action := .exec
    { argv
      cwd := options.findSome? cwd?
      environment := ⟨options.contains .clearEnv, options.filterMap env?⟩ }
  format := (options.findSome? format?).getD .text
  logFormat := (options.findSome? logFormat?).getD ((environment.get? "HOSTKIT_LOG_FORMAT").getD "pretty")

end ExecOption

namespace Arguments

open ExecOption

theorem shape_valued (name value : String) (plain : '=' ∉ name.toList) :
    Shape.of ("--" ++ name ++ "=" ++ value) = .long name (some value) := by
  have chars : ("--" ++ name ++ "=" ++ value).toList = '-' :: '-' :: (name.toList ++ '=' :: value.toList) := by simp
  have cut := Pieces.cut_append '=' name.toList value.toList plain
  rw [Shape.of, chars]
  cases shape : name.toList ++ '=' :: value.toList with
  | nil => simp at shape
  | cons c rest =>
      rw [shape] at cut
      simp [cut]

theorem key_found (topic : Topic) (key : OptionKey) (known : key ∈ topic.keys) : key? topic key.name = some key := by
  have each : ∀ key ∈ topic.keys, key? topic key.name = some key := by cases topic <;> decide
  exact each key known

theorem key_plain (key : OptionKey) : '=' ∉ key.name.toList := by cases key <;> decide

theorem accept_fresh (given : List (OptionKey × String)) (key : OptionKey) (value : String)
    (fresh : (∃ earlier ∈ given, earlier.1 = key) → key = .env) (taken : key.refuses value = none) :
    ({ given } : Taken).accept key value = .ok { given := given ++ [(key, value)] } := by
  have single : (({ given } : Taken).has key && !key.repeatable) = false := by
    by_cases again : ∃ earlier ∈ given, earlier.1 = key
    · simp [OptionKey.repeatable, fresh again]
    · simp_all [Taken.has]
  simp [Taken.accept, single, taken]

-- Whatever came before is settled, so that an option with its value is settled at once.
theorem take_valued (topic : Topic) (given : List (OptionKey × String)) (key : OptionKey) (value : String)
    (known : key ∈ topic.keys) (takes : key.takesValue = true) (taken : key.refuses value = none)
    (fresh : (∃ earlier ∈ given, earlier.1 = key) → key = .env) :
    take topic { given } ("--" ++ key.name ++ "=" ++ value) = .ok { given := given ++ [(key, value)] } := by
  have added : ({ given } : Taken).addOption key (some value) = .ok { given := given ++ [(key, value)] } := by
    rw [Taken.addOption, if_pos takes]
    exact accept_fresh given key value fresh taken
  simp [take, shape_valued key.name value (key_plain key), takeLong, key_found topic key known, added, refuse]

theorem take_option (topic : Topic) (given : List (OptionKey × String)) (option : ExecOption)
    (known : option.key ∈ topic.keys) (fresh : (∃ earlier ∈ given, earlier.1 = option.key) → option.key = .env) :
    take topic { given } option.arg = .ok { given := given ++ [option.entry] } := by
  cases option with
  | cwd dir => exact take_valued topic given .cwd dir known rfl rfl fresh
  | clearEnv =>
      have shape : Shape.of "--clear-env" = .long "clear-env" none := by decide
      have found : key? topic "clear-env" = some .clearEnv := key_found topic .clearEnv known
      have added : ({ given } : Taken).addOption .clearEnv none = .ok { given := given ++ [(.clearEnv, "")] } :=
        accept_fresh given .clearEnv "" fresh rfl
      simp [take, arg, shape, takeLong, found, added, refuse, entry, key, value]
  | env assignment => exact take_valued topic given .env assignment known rfl rfl fresh
  | format output => exact take_valued topic given .format output.name known rfl (by cases output <;> decide) fresh
  | logFormat name => exact take_valued topic given .logFormat name known rfl rfl fresh

theorem fresh_entry (front back : List ExecOption) (option : ExecOption)
    (single : Unrepeated (front ++ option :: back)) :
    (∃ earlier ∈ front.map entry, earlier.1 = option.key) → option.key = .env := by
  rintro ⟨earlier, member, same⟩
  obtain ⟨other, inside, rfl⟩ := List.mem_map.mp member
  rw [← same]
  exact (List.pairwise_append.mp single).2.2 other inside option List.mem_cons_self same

theorem take_options (topic : Topic) (front back : List ExecOption) (rest : List String)
    (known : ∀ option ∈ back, option.key ∈ topic.keys) (single : Unrepeated (front ++ back)) :
    takeAll topic { given := front.map entry } (back.map arg ++ rest) =
      takeAll topic { given := (front ++ back).map entry } rest := by
  -- The front holds what has been taken; each option goes over to it.
  induction back generalizing front with
  | nil => simp
  | cons option back ih =>
      have step := take_option topic (front.map entry) option (known option List.mem_cons_self)
        (fresh_entry front back option single)
      have later := ih (front ++ [option]) (fun other member => known other (List.mem_cons_of_mem option member))
        (by simpa using single)
      simpa [takeAll, step] using later

theorem arg_no_command (option : ExecOption) : Topic.ofName? option.arg = none := by
  have dash : option.arg.toList.head? = some '-' := by cases option <;> simp [arg]
  have names : ∀ command ∈ Topic.commands, command.1.toList.head? ≠ some '-' := by decide
  rw [Topic.ofName?, List.lookup_eq_none_iff]
  intro command member
  rw [bne_iff_ne]
  intro same
  exact names command member (same ▸ dash)

theorem take_global_options (front back : List ExecOption) (topic : Topic) (name : String) (rest : List String)
    (globals : ∀ option ∈ back, option.IsGlobal) (single : Unrepeated (front ++ back))
    (command : Topic.ofName? name = some topic) :
    takeProgram { given := front.map entry } (back.map arg ++ name :: rest) =
      .ok ({ given := (front ++ back).map entry }, some (topic, rest)) := by
  induction back generalizing front with
  | nil => simp [takeProgram, Taken.awaits, command]
  | cons option back ih =>
      have step := take_option .program (front.map entry) option (globals option List.mem_cons_self)
        (fresh_entry front back option single)
      have later := ih (front ++ [option]) (fun other member => globals other (List.mem_cons_of_mem option member))
        (by simpa using single)
      simpa [takeProgram, Taken.awaits, arg_no_command option, step] using later

theorem take_words (given : List (OptionKey × String)) (words argv : List String) :
    takeAll .exec { given, words, trailing := true } argv = .ok { given, words := words ++ argv, trailing := true } := by
  induction argv generalizing words with
  | nil => simp [takeAll, Taken.settle, refuse]
  | cons word argv ih =>
      -- Nothing waits and two dashes have come, so the word is not even looked at.
      have step : take .exec { given, words, trailing := true } word =
          .ok { given, words := words ++ [word], trailing := true } := rfl
      simpa [takeAll, step] using ih (words ++ [word])

end Arguments

namespace ExecOption

theorem lookup_entry (options : List ExecOption) (key : OptionKey) (read : ExecOption → Option String)
    (reads : ∀ option, read option = if option.key = key then some option.value else none) :
    (options.map entry).lookup key = options.findSome? read := by
  induction options with
  | nil => rfl
  | cons option options ih =>
      rw [List.map_cons, entry, List.lookup_cons, List.findSome?_cons, reads, ih]
      by_cases same : option.key = key
      · simp [same]
      · simp [same, beq_eq_false_iff_ne.mpr (Ne.symm same)]

theorem lookup_cwd (options : List ExecOption) : (options.map entry).lookup .cwd = options.findSome? cwd? :=
  lookup_entry options .cwd cwd? fun option => by cases option <;> rfl

theorem lookup_format (options : List ExecOption) :
    (options.map entry).lookup .format = (options.findSome? format?).map OutputFormat.name := by
  rw [lookup_entry options .format (fun option => (format? option).map OutputFormat.name) fun option => by cases option <;> rfl]
  exact List.map_findSome?.symm

theorem lookup_log_format (options : List ExecOption) :
    (options.map entry).lookup .logFormat = options.findSome? logFormat? :=
  lookup_entry options .logFormat logFormat? fun option => by cases option <;> rfl

theorem has_clear_env (options : List ExecOption) :
    (options.map entry).any (·.1 = .clearEnv) = options.contains .clearEnv := by
  induction options with
  | nil => rfl
  | cons option options ih => cases option <;> simp_all [entry, key]

theorem env_values (options : List ExecOption) :
    ((options.map entry).filter (·.1 = .env)).map (·.2) = options.filterMap env? := by
  induction options with
  | nil => rfl
  | cons option options ih => cases option <;> simp_all [entry, key, value, env?, List.filterMap_cons]

theorem global_other (option : ExecOption) (global : option.IsGlobal) : option ≠ .clearEnv ∧ env? option = none := by
  cases option <;> simp_all [IsGlobal, key, Topic.keys, env?]

theorem unrepeated_perm (options others : List ExecOption) (perm : options.Perm others) (single : Unrepeated options) :
    Unrepeated others :=
  perm.pairwise single fun {a b} => Std.Symm.symm a b

theorem unrepeated_unique (options : List ExecOption) (single : Unrepeated options) (a b : ExecOption) (first : a ∈ options)
    (second : b ∈ options) (same : a.key = b.key) (other : a.key ≠ .env) : a = b := by
  by_contra apart
  exact other (List.Pairwise.forall single first second apart same)

-- Where at most one option has a value to read, it does not matter in which order they are looked at.
theorem find_some_perm {α : Type} (read : ExecOption → Option α) (key : OptionKey) (options others : List ExecOption)
    (reads : ∀ option, (read option).isSome = true → option.key = key) (other : key ≠ .env) (single : Unrepeated options)
    (perm : options.Perm others) : options.findSome? read = others.findSome? read := by
  cases found : options.findSome? read with
  | none =>
      rw [List.findSome?_eq_none_iff] at found
      exact (List.findSome?_eq_none_iff.mpr fun option member => found option (perm.mem_iff.mpr member)).symm
  | some result =>
      obtain ⟨option, member, known⟩ := List.exists_of_findSome?_eq_some found
      have present : (others.findSome? read).isSome = true :=
        List.findSome?_isSome_iff.mpr ⟨option, perm.mem_iff.mp member, by simp [known]⟩
      obtain ⟨result', found'⟩ := Option.isSome_iff_exists.mp present
      obtain ⟨option', member', known'⟩ := List.exists_of_findSome?_eq_some found'
      -- Both searches end at an option of this key, and there is only one.
      have here := reads option (by simp [known])
      have there := reads option' (by simp [known'])
      have same := unrepeated_unique options single option option' member (perm.mem_iff.mpr member') (here.trans there.symm)
        (here ▸ other)
      rw [found', ← known', ← same, known]

theorem invocation_perm (environment : Environment) (options others : List ExecOption) (argv : List String)
    (single : Unrepeated options) (perm : options.Perm others) (ordered : options.filterMap env? = others.filterMap env?) :
    invocation environment options argv = invocation environment others argv := by
  have cwd := find_some_perm cwd? .cwd options others (fun option => by cases option <;> simp [cwd?, key]) (by decide) single perm
  have format := find_some_perm format? .format options others (fun option => by cases option <;> simp [format?, key])
    (by decide) single perm
  have logFormat := find_some_perm logFormat? .logFormat options others
    (fun option => by cases option <;> simp [logFormat?, key]) (by decide) single perm
  have clear : options.contains clearEnv = others.contains clearEnv := by
    rw [Bool.eq_iff_iff, List.contains_iff_mem, List.contains_iff_mem, perm.mem_iff]
  simp only [invocation, cwd, format, logFormat, clear, ordered]

end ExecOption

namespace Arguments

open ExecOption

theorem take_exec (back : List ExecOption) (argv : List String) (single : Unrepeated back) :
    takeAll .exec {} (back.map arg ++ "--" :: argv) =
      .ok { given := back.map entry, words := argv, trailing := true } := by
  have known : ∀ option ∈ back, option.key ∈ Topic.exec.keys := by
    intro option _
    cases option <;> simp [key, Topic.keys]
  have dashes : Shape.of "--" = .dashes := by decide
  calc takeAll .exec {} (back.map arg ++ "--" :: argv)
      = takeAll .exec { given := back.map entry } ("--" :: argv) := take_options .exec [] back _ known single
    _ = takeAll .exec { given := back.map entry, trailing := true } argv := by simp [takeAll, take, dashes]
    _ = .ok { given := back.map entry, words := argv, trailing := true } := take_words _ [] argv

theorem parse_exec (environment : Environment) (args rest : List String) (outer inner : Taken)
    (front : takeProgram {} args = .ok (outer, some (.exec, rest))) (settled : outer.pending = none)
    (back : takeAll .exec {} rest = .ok inner) (several : inner.words ≠ []) :
    parse environment args = .ok
      { action := .exec
          { argv := inner.words
            cwd := resolve environment outer inner .cwd
            environment := ⟨inner.has .clearEnv, inner.values .env⟩ }
        format := if resolve environment outer inner .format = some "json" then .json else .text
        logFormat := (resolve environment outer inner .logFormat).getD "" } := by
  have whole : complete .exec inner = true := by simp [complete, Topic.required, several]
  have done : refuse outer.settle = .ok outer := by simp [Taken.settle, settled, refuse]
  simp [parse, front, back, whole, done, action?, bind, Except.bind]

-- The command's own options are looked at before those in front of it, so the options count in this order.
section Resolve

variable (environment : Environment) (front back : List ExecOption) (words : List String)

theorem resolve_given (key : OptionKey) :
    resolve environment { given := front.map entry }
        { given := back.map entry, words, trailing := true } key =
      (((back ++ front).map entry).lookup key).or
        ((key.fromEnvironment.bind environment.get?).or key.default?) := by
  rw [List.map_append, List.lookup_append, Option.or_assoc]
  rfl

theorem resolve_cwd :
    resolve environment { given := front.map entry }
        { given := back.map entry, words, trailing := true } .cwd =
      (back ++ front).findSome? cwd? := by
  rw [resolve_given, lookup_cwd]
  exact Option.or_none

theorem resolve_format :
    (if resolve environment { given := front.map entry }
        { given := back.map entry, words, trailing := true } .format = some "json" then .json else .text) =
      ((back ++ front).findSome? format?).getD .text := by
  rw [resolve_given, lookup_format]
  rcases (back ++ front).findSome? format? with _ | _ | _
  · rfl
  · rfl
  · rfl

theorem resolve_log_format :
    (resolve environment { given := front.map entry }
        { given := back.map entry, words, trailing := true } .logFormat).getD "" =
      ((back ++ front).findSome? logFormat?).getD ((environment.get? "HOSTKIT_LOG_FORMAT").getD "pretty") := by
  rw [resolve_given, lookup_log_format]
  cases (back ++ front).findSome? logFormat? with
  | some name => rfl
  | none => cases known : environment.get? "HOSTKIT_LOG_FORMAT" <;> simp [OptionKey.fromEnvironment, OptionKey.default?, known]

end Resolve

theorem parse_line (environment : Environment) (front back : List ExecOption) (argv : List String)
    (globals : ∀ option ∈ front, option.IsGlobal) (single : Unrepeated (front ++ back)) (several : argv ≠ []) :
    parse environment (line front back argv) = .ok (invocation environment (front ++ back) argv) := by
  obtain ⟨first, second, -⟩ := List.pairwise_append.mp single
  have outer := take_global_options [] front .exec "exec" (back.map arg ++ "--" :: argv) globals first rfl
  have inner := take_exec back argv second
  -- The flag and the assignments are looked for after the name only; before it there are none.
  have clear : (back ++ front).contains clearEnv = back.contains clearEnv := by
    have absent : clearEnv ∉ front := fun member => (global_other _ (globals _ member)).1 rfl
    simp [absent]
  have noEnv : front.filterMap env? = [] :=
    List.filterMap_eq_nil_iff.mpr fun option member => (global_other option (globals option member)).2
  have assigned : (back ++ front).filterMap env? = back.filterMap env? := by
    rw [List.filterMap_append, noEnv, List.append_nil]
  have swapped : invocation environment (front ++ back) argv =
      invocation environment (back ++ front) argv :=
    invocation_perm environment _ _ argv single List.perm_append_comm (by simp [noEnv])
  rw [line, parse_exec environment _ _ _ _ outer rfl inner several, swapped]
  simp only [List.nil_append, resolve_cwd, resolve_format, resolve_log_format, Taken.has, has_clear_env,
    Taken.values, env_values, invocation, clear, assigned]

theorem exec_line_verbatim (environment : Environment) (front back : List ExecOption) (argv : List String)
    (globals : ∀ option ∈ front, option.IsGlobal) (single : Unrepeated (front ++ back)) (several : argv ≠ []) :
    parse environment (line front back argv) = .ok (invocation environment (front ++ back) argv) ∧
      ∀ front' back', (∀ option ∈ front', option.IsGlobal) → (front ++ back).Perm (front' ++ back') →
        (front ++ back).filterMap env? = (front' ++ back').filterMap env? →
        parse environment (line front' back' argv) = parse environment (line front back argv) := by
  refine ⟨parse_line environment front back argv globals single several, ?_⟩
  intro front' back' globals' perm ordered
  have single' := unrepeated_perm _ _ perm single
  rw [parse_line environment front' back' argv globals' single' several,
    parse_line environment front back argv globals single several,
    invocation_perm environment _ _ argv single perm ordered]

theorem exec_line_verbatim_dashes :
    let argv := ["--", "", "-x", "--cwd=z", "exec"]
    let done : Except Stop Invocation :=
      .ok { action := .exec ⟨argv, some "-d", ⟨true, ["A=1", "A=2"]⟩⟩, format := .json, logFormat := "JSON" }
    parse .empty (["--log-format=JSON", "exec", "--env=A=1", "--cwd=-d", "--format=json", "--clear-env", "--env=A=2", "--"] ++
        argv) = done ∧
      parse .empty (["--format=json", "exec", "--clear-env", "--env=A=1", "--env=A=2", "--log-format=JSON", "--cwd=-d", "--"] ++
        argv) = done := by
  intro argv done
  have both := exec_line_verbatim .empty [.logFormat "JSON"] [.env "A=1", .cwd "-d", .format .json, .clearEnv, .env "A=2"] argv
    (by decide) (by decide) (by decide)
  have other := both.2 [.format .json] [.clearEnv, .env "A=1", .env "A=2", .logFormat "JSON", .cwd "-d"]
    (by decide) (by decide) (by decide)
  exact ⟨both.1, other.trans both.1⟩

end Arguments

end HostTools
