import ValueGrammar.Command
import ValueGrammar.Proofs.Files
import ValueGrammar.Proofs.Tables

/-! What a run of the types command leaves behind. Seven stages can keep it from
finishing, and the first one that does decides what is printed. A run that none of
them stops shows the descriptors of the value definition, or puts them into the
file that is asked for. The standard streams are no such stages: a stream may
refuse what is printed on it, and nothing is promised about how a run ends then. -/
namespace ValueGrammar.Stages
open Command Catalog Typing Files

variable {σ : Type}

/-- The two files with tables of data types. -/
inductive Table where
  | types
  | syntaxes
deriving DecidableEq

def Table.path (directory : String) : Table → String
  | types => tablePath directory "types.json"
  | syntaxes => tablePath directory "syntaxes.json"

/-- What a run goes through. -/
inductive Stage where
  | input
  | reading (table : Table)
  | json (table : Table)
  | parsing
  | writing
deriving DecidableEq

/-- The stages, the one that comes first in front. -/
def Stage.inOrder : List Stage :=
  [input, reading .types, reading .syntaxes, json .types, json .syntaxes, parsing, writing]

/-- The stages that are gone through before the value definition is parsed. -/
def Stage.preparing : List Stage :=
  [input, reading .types, reading .syntaxes, json .types, json .syntaxes]

section Specification

variable (place : Surroundings (StateM σ)) (view : View σ) (options : Options) (state : σ)

/-- The value definition is the argument, or for a hyphen the standard input
without the white space at its ends. -/
inductive Names : String → Prop where
  | argument {text : String} (given : options.source = some text) (other : text ≠ "-") : Names text
  | input {text : String} (hyphen : options.source = some "-")
    (read : (place.readInput.run state).1 = .ok text) :
    Names (String.ofList (Text.trim text.toList))

/-- There is a directory of tables, and this is the content of the file of one. -/
inductive Holds (table : Table) : String → Prop where
  | file {directory text : String} (asked : options.tables = some directory)
    (read : ((place.readFile (table.path directory)).run state).1 = .ok text) : Holds table text

/-- The catalog is the one without tables, or that of the keys of both tables. A table
is an object of JSON, and each of its keys stands for a text. -/
inductive Loads : Catalog → Prop where
  | builtin (without : options.tables = none) : Loads .builtin
  | tables {types syntaxes : String} {typeNames syntaxNames : List String}
    (heldTypes : Holds place options state .types types)
    (heldSyntaxes : Holds place options state .syntaxes syntaxes)
    (typeTable : Tables.Table types.toList typeNames)
    (syntaxTable : Tables.Table syntaxes.toList syntaxNames) : Loads (build typeNames syntaxNames)

/-- The value definition is parsed and typed with the catalog, and these are its
descriptors. -/
inductive Yields : TypeSet → Prop where
  | types {source : String} {catalog : Catalog} {types : TypeSet}
    (named : Names place options state source) (loaded : Loads place options state catalog)
    (typed : typeSource catalog source = .ok types) : Yields types

/-- The line or lines that are shown for a set of descriptors. -/
def shown (types : TypeSet) : String := typesText options types.toList ++ "\n"

/-- The stage cannot be passed, and this is said about it. Whether a stage can be
passed does not depend on those before it, as far as there is something for it
to work on. -/
inductive Fails : Stage → String → Prop where
  | input {fault : FileFault} (hyphen : options.source = some "-")
    (refused : (place.readInput.run state).1 = .error fault) :
    Fails .input ("error: failed to read syntax from stdin: " ++ fault.message ++ "\n")
  | reading {table : Table} {directory : String} {fault : FileFault}
    (asked : options.tables = some directory)
    (refused : ((place.readFile (table.path directory)).run state).1 = .error fault) :
    Fails (.reading table) ("error: " ++ ("failed to read " ++ table.path directory ++ ": " ++
      fault.message) ++ "\n")
  | json {table : Table} {text : String} {error : LoadError}
    (held : Holds place options state table text) (malformed : tableNames text = .error error) :
    Fails (.json table) ("error: " ++ error.message ++ "\n")
  | parsing {source : String} {error : ParseError} (named : Names place options state source)
    (wrong : Entity.parse source = .error error) :
    Fails .parsing (Diagnostic.render error source (options.coloring = some .always))
  | writing {path : String} {types : TypeSet} {fault : FileFault}
    (yields : Yields place options state types) (asked : options.output = some path)
    (refused : ((place.writeFile path (shown options types)).run state).1 = .error fault) :
    Fails .writing ("error: failed to write " ++ path ++ ": " ++ fault.message ++ "\n")

/-- The stage fails, and none of those before it does. -/
def FailsFirst (stage : Stage) (text : String) : Prop :=
  Fails place options state stage text ∧ ∃ before after, Stage.inOrder = before ++ stage :: after ∧
    ∀ earlier ∈ before, ∀ other, ¬ Fails place options state earlier other

/-- Every stage of a run can be passed, and the output takes what is shown. -/
def Passes : Prop :=
  ∃ types, Yields place options state types ∧
    (options.output = none →
      ((place.print .output (shown options types)).run state).1 = .ok ()) ∧
    ∀ path, options.output = some path →
      ((place.writeFile path (shown options types)).run state).1 = .ok ()

/-- A run that has come to its end: the descriptors are shown, and nothing else. -/
inductive Succeeds : Outcome → σ → Prop where
  | printed {types : TypeSet} {after : σ} (yields : Yields place options state types)
    (without : options.output = none)
    (printed : Printed place view .output (shown options types) state after) :
    Succeeds { status := 0, output := shown options types } after
  | written {path : String} {types : TypeSet} {after : σ} (yields : Yields place options state types)
    (asked : options.output = some path)
    (written : (place.writeFile path (shown options types)).run state = (.ok (), after))
    (held : ¬ view.device path → ((place.readFile path).run after).1 = .ok (shown options types))
    (quiet : ¬ view.linked path → view.Quiet state after) : Succeeds { status := 0 } after

/-- What a run has done when it comes to a stage that it cannot pass. This is nothing,
unless it is the write that fails. -/
inductive Leaves : Stage → σ → Prop where
  | unchanged {stage : Stage} (early : stage ≠ .writing) : Leaves stage state
  | writing {path : String} {types : TypeSet} {fault : FileFault} {after : σ}
    (yields : Yields place options state types) (asked : options.output = some path)
    (refused : (place.writeFile path (shown options types)).run state = (.error fault, after))
    (quiet : ¬ view.linked path → view.Quiet state after) : Leaves .writing after

/-- A run that did not come to its end. It tells about the first stage that fails, and
does nothing else. Where a stream refuses what is printed on it, nothing is said
about the outcome. -/
inductive Stops : Outcome → σ → Prop where
  | told {stage : Stage} {text : String} {between after : σ}
    (first : FailsFirst place options state stage text)
    (leaves : Leaves place view options state stage between)
    (told : Printed place view .errors text between after) :
    Stops { status := 1, errors := text } after
  | untold {stage : Stage} {text : String} {between after : σ} {fault : FileFault}
    {outcome : Outcome} (first : FailsFirst place options state stage text)
    (leaves : Leaves place view options state stage between)
    (refused : ((place.print .errors text).run between).1 = .error fault) : Stops outcome after
  | unshown {types : TypeSet} {after : σ} {fault : FileFault} {outcome : Outcome}
    (yields : Yields place options state types) (without : options.output = none)
    (refused : ((place.print .output (shown options types)).run state).1 = .error fault) :
    Stops outcome after

end Specification

variable {place : Surroundings (StateM σ)} {view : View σ} {options : Options} {state : σ}
  {source text other directory : String} {table : Table} {catalog : Catalog}

theorem held_alike (held : Holds place options state table text)
    (held' : Holds place options state table other) : text = other := by
  obtain ⟨asked, read⟩ := held
  obtain ⟨asked', read'⟩ := held'
  cases asked.symm.trans asked'
  cases read.symm.trans read'
  rfl

theorem named_alike (named : Names place options state text)
    (named' : Names place options state other) : text = other := by
  cases named with
  | argument given plain =>
    cases named' with
    | argument given' plain' => exact Option.some.inj (given.symm.trans given')
    | input hyphen read => exact absurd (Option.some.inj (given.symm.trans hyphen)) plain
  | input hyphen read =>
    cases named' with
    | argument given plain => exact absurd (Option.some.inj (given.symm.trans hyphen)) plain
    | input hyphen' read' =>
      cases read.symm.trans read'
      rfl

theorem input_passed (named : Names place options state source) :
    ¬ Fails place options state .input text := by
  intro fails
  cases fails with
  | input hyphen refused =>
    cases named with
    | argument given other => exact other (Option.some.inj (given.symm.trans hyphen))
    | input hyphen read => cases read.symm.trans refused

theorem reading_passed (held : Holds place options state table text) :
    ¬ Fails place options state (.reading table) other := by
  intro fails
  cases fails with
  | reading asked refused =>
    cases held with
    | file asked' read =>
      cases asked.symm.trans asked'
      cases read.symm.trans refused

theorem json_passed {names : List String} (held : Holds place options state table text)
    (isTable : Tables.Table text.toList names) :
    ¬ Fails place options state (.json table) other := by
  intro fails
  cases fails with
  | json held' malformed =>
    cases held_alike held held'
    have keys := (Tables.table_names_iff text).mpr isTable
    cases keys.symm.trans malformed

theorem parsing_passed {entities : List Entity} (named : Names place options state source)
    (parsed : Entity.parse source = .ok entities) : ¬ Fails place options state .parsing text := by
  intro fails
  cases fails with
  | parsing named' wrong =>
    cases named_alike named named'
    cases parsed.symm.trans wrong

/-- A catalog that is loaded comes from tables that could be read and taken apart. -/
theorem tables_passed (loaded : Loads place options state catalog) (table : Table) :
    ¬ Fails place options state (.reading table) text ∧
      ¬ Fails place options state (.json table) text := by
  cases loaded with
  | builtin without =>
    constructor
    · intro fails
      cases fails with
      | reading asked refused => cases without.symm.trans asked
    · intro fails
      cases fails with
      | json held malformed =>
        obtain ⟨asked, read⟩ := held
        cases without.symm.trans asked
  | tables types syntaxes typeTable syntaxTable =>
    cases table with
    | types => exact ⟨reading_passed types, json_passed types typeTable⟩
    | syntaxes => exact ⟨reading_passed syntaxes, json_passed syntaxes syntaxTable⟩

mutual

/-- The options of a command are read until there is a value definition among them. -/
private theorem options_name_source {verb other : Verb} {options final : Options}
    {arguments : List String}
    (read : readOptions verb options arguments = some (.execute other final)) :
    final.source.isSome = true := by
  unfold readOptions at read
  split at read
  · split at read
    next some =>
      cases read
      exact some
    · cases read
  split at read
  · obtain ⟨options, -, read⟩ := Option.bind_eq_some_iff.mp read
    exact options_name_source read
  · split at read
    · split at read
      next some =>
        cases read
        exact some
      · cases read
    · cases read
  · split at read
    · cases read
    split at read
    · obtain ⟨options, -, read⟩ := Option.bind_eq_some_iff.mp read
      exact options_name_source read
    split at read
    · exact value_names_source read
    · cases read
  · split at read
    · obtain ⟨options, -, read⟩ := Option.bind_eq_some_iff.mp read
      exact options_name_source read
    · cases read
  · split at read
    · cases read
    split at read
    · split at read
      · exact value_names_source read
      · obtain ⟨options, -, read⟩ := Option.bind_eq_some_iff.mp read
        exact options_name_source read
      · obtain ⟨options, -, read⟩ := Option.bind_eq_some_iff.mp read
        exact options_name_source read
    · cases read
termination_by arguments.length

private theorem value_names_source {verb other : Verb} {options final : Options}
    {option : ValueOption} {arguments : List String}
    (read : readOptions.readValue verb options option arguments = some (.execute other final)) :
    final.source.isSome = true := by
  unfold readOptions.readValue at read
  split at read
  · cases read
  split at read
  · obtain ⟨options, -, read⟩ := Option.bind_eq_some_iff.mp read
    exact options_name_source read
  · cases read
termination_by arguments.length

end

private theorem accepted_source {arguments : List String} {verb : Verb}
    (accepted : Request.ofArguments? arguments = some (.execute verb options)) :
    ∃ text, options.source = some text := by
  apply Option.isSome_iff_exists.mp
  unfold Request.ofArguments? at accepted
  split at accepted
  · cases accepted
  split at accepted
  · split at accepted
    · exact options_name_source accepted
    split at accepted
    · exact options_name_source accepted
    split at accepted
    · split at accepted <;> cases accepted
    · cases accepted
  · split at accepted <;> cases accepted
  · split at accepted <;> cases accepted
  · cases accepted
  · cases accepted

/-- The text for a failure, in colour if that is asked for. -/
private abbrev told (options : Options) (failure : Failure) : String :=
  failure.text (options.coloring = some .always)

private theorem run_then {α β : Type} {action : StateM σ α} {next : α → StateM σ β}
    {result : α} {after : σ} (ran : action.run state = (result, after)) :
    (action >>= next).run state = (next result).run after := by
  rw [StateT.run_bind, ran]
  rfl

/-- Before the value definition is known, only the input can stop a run. -/
private theorem source_read (faithful : Faithful place view)
    (given : options.source = some text) :
    (∃ failure, Fails place options state .input (told options failure) ∧
      (readSource place options).run state = (.error failure, state)) ∨
    ∃ source, Names place options state source ∧
      (readSource place options).run state = (.ok source, state) := by
  unfold readSource
  simp only [given, Option.getD_some]
  by_cases hyphen : text = "-"
  · rw [if_pos hyphen]
    subst hyphen
    have unchanged := faithful.input state
    rcases ran : place.readInput.run state with ⟨result, after⟩
    rw [ran] at unchanged
    obtain rfl : after = state := unchanged
    rw [run_then ran]
    cases result with
    | error fault => exact .inl ⟨.input fault, .input given (by rw [ran]), rfl⟩
    | ok text => exact .inr ⟨_, .input given (by rw [ran]), rfl⟩
  · rw [if_neg hyphen]
    exact .inr ⟨text, .argument given hyphen, rfl⟩

private theorem table_read (faithful : Faithful place view)
    (asked : options.tables = some directory) (state : σ) (table : Table) :
    (∃ fault, Fails place options state (.reading table)
        (told options (.catalog (.unreadable (table.path directory) fault))) ∧
      (place.readFile (table.path directory)).run state = (.error fault, state)) ∨
    ∃ text, Holds place options state table text ∧
      (place.readFile (table.path directory)).run state = (.ok text, state) := by
  have unchanged := faithful.file (table.path directory) state
  rcases ran : (place.readFile (table.path directory)).run state with ⟨result, after⟩
  rw [ran] at unchanged
  obtain rfl : after = state := unchanged
  cases result with
  | error fault => exact .inl ⟨fault, .reading asked (by rw [ran]), rfl⟩
  | ok text => exact .inr ⟨text, .file asked (by rw [ran]), rfl⟩

/-- With a value definition at hand it is the tables that can stop a run. -/
private theorem tables_loaded (faithful : Faithful place view)
    (named : Names place options state source) (asked : options.tables = some directory) :
    (∃ stage error, stage ≠ .writing ∧
      FailsFirst place options state stage (told options (.catalog error)) ∧
      (load place directory).run state = (.error error, state)) ∨
    ∃ catalog, Loads place options state catalog ∧
      (load place directory).run state = (.ok catalog, state) := by
  have input : ∀ text, ¬ Fails place options state .input text := fun _ => input_passed named
  unfold load
  rcases table_read faithful asked state .types with
    ⟨fault, fails, ran⟩ | ⟨types, heldTypes, ran⟩
  · exact .inl ⟨_, _, Stage.noConfusion, ⟨fails, [.input], _, rfl, by simpa using input⟩,
      run_then ran⟩
  have readTypes : ∀ text, ¬ Fails place options state (.reading .types) text :=
    fun _ => reading_passed heldTypes
  rcases table_read faithful asked state .syntaxes with
    ⟨fault, fails, ran'⟩ | ⟨syntaxes, heldSyntaxes, ran'⟩
  · refine .inl ⟨_, _, Stage.noConfusion, ⟨fails, [.input, .reading .types], _, rfl, ?_⟩,
      (run_then ran).trans (run_then ran')⟩
    simpa using ⟨input, readTypes⟩
  have readSyntaxes : ∀ text, ¬ Fails place options state (.reading .syntaxes) text :=
    fun _ => reading_passed heldSyntaxes
  have combined : (load place directory).run state =
      (pure (ofJson types syntaxes) : StateM σ (Except LoadError Catalog)).run state :=
    (run_then ran).trans (run_then ran')
  cases typeKeys : tableNames types with
  | error error =>
    refine .inl ⟨.json .types, error, Stage.noConfusion, ⟨.json heldTypes typeKeys,
      [.input, .reading .types, .reading .syntaxes], _, rfl, ?_⟩, combined.trans ?_⟩
    · simpa using ⟨input, readTypes, readSyntaxes⟩
    · rw [ofJson, typeKeys]
      rfl
  | ok typeNames =>
    have typeTable := (Tables.table_names_iff types).mp typeKeys
    have jsonTypes : ∀ text, ¬ Fails place options state (.json .types) text :=
      fun _ => json_passed heldTypes typeTable
    cases syntaxKeys : tableNames syntaxes with
    | error error =>
      refine .inl ⟨.json .syntaxes, error, Stage.noConfusion, ⟨.json heldSyntaxes syntaxKeys,
        [.input, .reading .types, .reading .syntaxes, .json .types], _, rfl, ?_⟩, combined.trans ?_⟩
      · simpa using ⟨input, readTypes, readSyntaxes, jsonTypes⟩
      · rw [ofJson, typeKeys, syntaxKeys]
        rfl
    | ok syntaxNames =>
      have syntaxTable := (Tables.table_names_iff syntaxes).mp syntaxKeys
      refine .inr ⟨_, .tables heldTypes heldSyntaxes typeTable syntaxTable, combined.trans ?_⟩
      rw [ofJson, typeKeys, syntaxKeys]
      rfl

private theorem catalog_read (faithful : Faithful place view)
    (named : Names place options state source) :
    (∃ stage failure, stage ≠ .writing ∧
      FailsFirst place options state stage (told options failure) ∧
      (readCatalog place options).run state = (.error failure, state)) ∨
    ∃ catalog, Loads place options state catalog ∧
      (readCatalog place options).run state = (.ok catalog, state) := by
  unfold readCatalog
  cases asked : options.tables with
  | none => exact .inr ⟨_, .builtin asked, rfl⟩
  | some directory =>
    rcases tables_loaded faithful named asked with
      ⟨stage, error, early, first, ran⟩ | ⟨catalog, loaded, ran⟩
    · exact .inl ⟨stage, _, early, first, run_then ran⟩
    · exact .inr ⟨catalog, loaded, run_then ran⟩

/-- What the stages up to the tables leave for the others. -/
private theorem prepared_passed (named : Names place options state source)
    (loaded : Loads place options state catalog) :
    ∀ stage ∈ Stage.preparing, ∀ text, ¬ Fails place options state stage text := by
  have tables : ∀ table text, ¬ Fails place options state (.reading table) text ∧
      ¬ Fails place options state (.json table) text := fun table _ => tables_passed loaded table
  simp only [Stage.preparing, List.forall_mem_cons]
  exact ⟨fun _ => input_passed named, fun text => (tables .types text).1,
    fun text => (tables .syntaxes text).1, fun text => (tables .types text).2,
    fun text => (tables .syntaxes text).2, by simp⟩

private theorem typed_parsed {types : TypeSet} (typed : typeSource catalog source = .ok types) :
    ∃ entities, Entity.parse source = .ok entities ∧ typeEntities catalog entities = types := by
  unfold typeSource at typed
  cases parsed : Entity.parse source with
  | error error =>
    rw [parsed] at typed
    cases typed
  | ok entities =>
    rw [parsed] at typed
    exact ⟨entities, rfl, Except.ok.inj typed⟩

private theorem loaded_alike {other : Catalog} (loaded : Loads place options state catalog)
    (loaded' : Loads place options state other) : catalog = other := by
  cases loaded with
  | builtin without =>
    cases loaded' with
    | builtin without' => rfl
    | tables types syntaxes =>
      obtain ⟨asked, read⟩ := types
      cases without.symm.trans asked
  | tables types syntaxes typeTable syntaxTable =>
    cases loaded' with
    | builtin without =>
      obtain ⟨asked, read⟩ := types
      cases without.symm.trans asked
    | tables types' syntaxes' typeTable' syntaxTable' =>
      cases held_alike types types'
      cases held_alike syntaxes syntaxes'
      cases Tables.table_alike typeTable typeTable'
      cases Tables.table_alike syntaxTable syntaxTable'
      rfl

private theorem yields_alike {types others : TypeSet} (yields : Yields place options state types)
    (yields' : Yields place options state others) : types = others := by
  obtain ⟨named, loaded, typed⟩ := yields
  obtain ⟨named', loaded', typed'⟩ := yields'
  cases named_alike named named'
  cases loaded_alike loaded loaded'
  exact Except.ok.inj (typed.symm.trans typed')

/-- What yields descriptors has passed all the stages but the last one. -/
private theorem yields_passed {types : TypeSet} (yields : Yields place options state types) :
    ∀ stage ∈ Stage.preparing ++ [.parsing], ∀ text, ¬ Fails place options state stage text := by
  obtain ⟨named, loaded, typed⟩ := yields
  obtain ⟨entities, parsed, -⟩ := typed_parsed typed
  intro stage member
  rcases List.mem_append.mp member with member | member
  · exact prepared_passed named loaded stage member
  · rw [List.mem_singleton.mp member]
    exact fun _ => parsing_passed named parsed

/-- Where every stage can be passed, none fails. -/
theorem nothing_fails (passes : Passes place options state) (stage : Stage) (text : String) :
    ¬ Fails place options state stage text := by
  obtain ⟨types, yields, -, writable⟩ := passes
  by_cases last : stage = .writing
  · subst last
    intro fails
    cases fails with
    | writing yields' asked refused =>
      cases yields_alike yields yields'
      cases (writable _ asked).symm.trans refused
  · apply yields_passed yields stage
    cases stage with
    | writing => exact absurd rfl last
    | input | parsing => simp [Stage.preparing]
    | reading table | json table => cases table <;> simp [Stage.preparing]

/-- A stream takes what is printed on it or breaks the program off. -/
private theorem finish_run (place : Surroundings (StateM σ)) (stream : Stream) (text : String)
    (status : Nat) (state : σ) :
    (∃ after, (place.print stream text).run state = (.ok (), after) ∧
      (finish place stream text status).run state = (.printing stream text status, after)) ∨
    ∃ fault after, ((place.print stream text).run state).1 = .error fault ∧
      (finish place stream text status).run state = (.printing stream text brokenOff, after) := by
  unfold finish
  rcases ran : (place.print stream text).run state with ⟨result, after⟩
  rw [run_then ran]
  cases result with
  | error fault => exact .inr ⟨fault, _, rfl, rfl⟩
  | ok _ => exact .inl ⟨after, rfl, rfl⟩

section Endings

variable (place view options state)

/-- A run ends with status 0 if every stage can be passed, and is stopped otherwise. -/
private def Ends (outcome : Outcome) (after : σ) : Prop :=
  (outcome.status = 0 ∧ Passes place options state ∧
    Succeeds place view options state outcome after) ∨
  (outcome.status ≠ 0 ∧ ¬ Passes place options state ∧
    Stops place view options state outcome after)

/-- Some stage fails with this text and leaves this state behind. -/
private def FailsWith (text : String) (between : σ) : Prop :=
  ∃ stage, FailsFirst place options state stage text ∧
    Leaves place view options state stage between

end Endings

/-- The text for a stage that fails is printed on the stream for errors. -/
private theorem failure_told (faithful : Faithful place view) {between : σ}
    (fails : FailsWith place view options state text between) :
    ∃ outcome after, (finish place .errors text 1).run between = (outcome, after) ∧
      Ends place view options state outcome after := by
  obtain ⟨stage, first, leaves⟩ := fails
  have stuck : ¬ Passes place options state := fun passes => nothing_fails passes _ _ first.1
  rcases finish_run place .errors text 1 between with
    ⟨after, taken, ran⟩ | ⟨fault, after, refused, ran⟩
  · refine ⟨_, after, ran, .inr ⟨by simp [Outcome.printing], stuck, ?_⟩⟩
    exact .told first leaves (faithful.prints _ _ _ _ taken)
  · refine ⟨_, after, ran, .inr ⟨by simp [Outcome.printing, brokenOff], stuck, ?_⟩⟩
    exact .untold first leaves refused

/-- Where a file is asked for, a write that fails is the last stage that can. -/
private theorem written_or_failed (faithful : Faithful place view) {types : TypeSet}
    (yields : Yields place options state types) {path : String}
    (asked : options.output = some path) :
    (∃ fault after, (place.writeFile path (shown options types)).run state = (.error fault, after) ∧
      FailsWith place view options state (told options (.unwritable path fault)) after) ∨
    ∃ after, (place.writeFile path (shown options types)).run state = (.ok (), after) ∧
      Ends place view options state { status := 0 } after := by
  rcases ran : (place.writeFile path (shown options types)).run state with ⟨result, after⟩
  have quiet : ¬ view.linked path → view.Quiet state after :=
    fun apart => faithful.quiet path _ _ _ _ apart ran
  cases result with
  | error fault =>
    have first : FailsFirst place options state .writing (told options (.unwritable path fault)) :=
      ⟨.writing yields asked (by rw [ran]), Stage.preparing ++ [.parsing], [], rfl,
        yields_passed yields⟩
    exact .inl ⟨fault, after, rfl, .writing, first, .writing yields asked ran quiet⟩
  | ok _ =>
    have passes : Passes place options state := by
      refine ⟨types, yields, fun without => ?_, fun other asked' => ?_⟩
      · cases asked.symm.trans without
      · cases asked.symm.trans asked'
        rw [ran]
    refine .inr ⟨after, rfl, .inl ⟨rfl, passes, .written yields asked ran ?_ quiet⟩⟩
    exact fun plain => faithful.keeps path _ _ _ plain ran

private theorem printed_ends (faithful : Faithful place view) {types : TypeSet}
    (yields : Yields place options state types) (without : options.output = none) :
    ∃ outcome after, (finish place .output (shown options types) 0).run state = (outcome, after) ∧
      Ends place view options state outcome after := by
  rcases finish_run place .output (shown options types) 0 state with
    ⟨after, taken, ran⟩ | ⟨fault, after, refused, ran⟩
  · have passes : Passes place options state := by
      refine ⟨types, yields, fun _ => by rw [taken], fun path asked => ?_⟩
      cases without.symm.trans asked
    refine ⟨_, after, ran, .inl ⟨rfl, passes, .printed yields without ?_⟩⟩
    exact faithful.prints _ _ _ _ taken
  · have stuck : ¬ Passes place options state := by
      rintro ⟨types', yields', takes, -⟩
      cases yields_alike yields yields'
      cases (takes without).symm.trans refused
    refine ⟨_, after, ran, .inr ⟨by simp [Outcome.printing, brokenOff], stuck, ?_⟩⟩
    exact .unshown yields without refused

private theorem delivered (faithful : Faithful place view) {types : TypeSet}
    (yields : Yields place options state types) :
    (∃ failure between, (deliver place options (typesText options types.toList)).run state =
        (.error failure, between) ∧
      FailsWith place view options state (told options failure) between) ∨
    ∃ outcome after, (deliver place options (typesText options types.toList)).run state =
        (.ok outcome, after) ∧ Ends place view options state outcome after := by
  unfold deliver
  cases asked : options.output with
  | none =>
    obtain ⟨outcome, after, ran, ends⟩ := printed_ends faithful yields asked
    exact .inr ⟨outcome, after, run_then ran, ends⟩
  | some path =>
    rcases written_or_failed faithful yields asked with
      ⟨fault, between, ran, fails⟩ | ⟨after, ran, ends⟩
    · exact .inl ⟨.unwritable path fault, between, run_then ran, fails⟩
    · exact .inr ⟨_, after, run_then ran, ends⟩

/-- A run of the command is stopped at one of its stages, or goes on to its end. -/
private theorem types_run (faithful : Faithful place view) (given : options.source = some text)
    (state : σ) :
    (∃ failure between, (runTypes place options).run state = (.error failure, between) ∧
      FailsWith place view options state (told options failure) between) ∨
    ∃ outcome after, (runTypes place options).run state = (.ok outcome, after) ∧
      Ends place view options state outcome after := by
  unfold runTypes
  rcases source_read faithful given with ⟨failure, fails, ran⟩ | ⟨source, named, ran⟩
  · exact .inl ⟨failure, state, run_then ran,
      .input, ⟨fails, [], _, rfl, by simp⟩, .unchanged Stage.noConfusion⟩
  -- From here on it is settled that the input does not fail.
  rw [run_then ran]
  rcases catalog_read faithful named with
    ⟨stage, failure, early, first, ran⟩ | ⟨catalog, loaded, ran⟩
  · exact .inl ⟨failure, state, run_then ran, stage, first, .unchanged early⟩
  simp only [run_then ran]
  cases parsed : Entity.parse source with
  | error error =>
    have first : FailsFirst place options state .parsing
        (told options (.definition error source)) :=
      ⟨.parsing named parsed, Stage.preparing, [.writing], rfl, prepared_passed named loaded⟩
    simp only [parseSource, parsed]
    exact .inl ⟨_, state, rfl, .parsing, first, .unchanged Stage.noConfusion⟩
  | ok entities =>
    have typed : typeSource catalog source = .ok (typeEntities catalog entities) := by
      rw [typeSource, parsed]
      rfl
    simp only [parseSource, parsed]
    exact delivered faithful (.types named loaded typed)

/-- A failure of the command is told before the run ends. -/
private theorem types_ends (faithful : Faithful place view) (given : options.source = some text)
    (state : σ) :
    ∃ outcome after, (execute place .types options).run state = (outcome, after) ∧
      Ends place view options state outcome after := by
  unfold execute
  rcases types_run faithful given state with
    ⟨failure, between, ran, fails⟩ | ⟨outcome, after, ran, ends⟩
  · obtain ⟨outcome, after, ran', ends⟩ := failure_told faithful fails
    exact ⟨outcome, after, (run_then ran).trans ran', ends⟩
  · exact ⟨outcome, after, run_then ran, ends⟩

/-- A workplace with both tables, where the input names a type of the first one. -/
def workplace : Workplace where
  input := some " a | <color>\n"
  tree := .ofList [("mdn/css/types.json", "\x7b\"color\": 1\x7d"),
    ("mdn/css/syntaxes.json", "\x7b\x7d")]

/-- The input, the tables and a file to write to are all asked for. -/
def fullOptions : Options :=
  { source := some "-", tables := some "mdn", output := some "out.txt" }

example : ((run Workplace.surroundings
      ["types", "-", "--mdn-data", "mdn", "-o", "out.txt"]).run workplace).2.tree.read "out.txt" =
    .ok "\"a\"\nstring\n" := by
  decide +kernel

/-- An object whose only key is half of a pair, which stands for no text. -/
def halfPair : String := "\x7b\"\\ud800\":1\x7d"

/-- A workplace where that object is in the place of a table. -/
def halfPairWorkplace : Workplace where
  tree := .ofList [("mdn/css/types.json", halfPair), ("mdn/css/syntaxes.json", "\x7b\x7d")]

private theorem half_pair_object : Tables.Value halfPair.toList [] := by
  have whole : halfPair.toList = '\x7b' :: '"' ::
      (['\\', 'u', 'd', '8', '0', '0'] ++ '"' :: [':', '1', '\x7d']) := by
    decide
  have code : Tables.Code ['d', '8', '0', '0'] (16 * (16 * (16 * 13 + 8) + 0) + 0) [] :=
    .digits (.inl rfl) (.inl rfl) (.inl rfl) (.inl rfl)
  have one : Tables.Value ['1', '\x7d'] ['\x7d'] :=
    .number (.positive (.digits (by decide) (by decide) .none (.none .none)))
  rw [whole]
  apply Tables.Value.object
  apply Tables.Inside.members
  apply Tables.Members.member .none
  · exact .code code .none
  · exact .field .none .none one (.last .none)

/-- Both of its files can be read, and the other one is a table. -/
private theorem half_pair_files :
    halfPairWorkplace.tree.read (Table.types.path "mdn") = .ok halfPair ∧
    halfPairWorkplace.tree.read (Table.syntaxes.path "mdn") = .ok "\x7b\x7d" ∧
    Tables.Table "\x7b\x7d".toList [] :=
  ⟨by decide +kernel, by decide +kernel, (Tables.keys_iff _).mp (by decide +kernel)⟩

/-- A workplace whose output takes nothing. -/
def fullWorkplace : Workplace where
  output := { fault := some (.other "No space left on device" 28) }

end ValueGrammar.Stages
