import Mathlib.Data.List.Basic
import ValueGrammar.Files

/-! Trees of files keep what is written to them. A path names the same file before
and after a write, and nothing but the null device forgets its content. What is
printed goes to its stream and nowhere else. -/
namespace ValueGrammar.Files
open FileTree

variable {tree after : FileTree} {path content : String} {start name : List String}
  {parts : List String}

/-- Only a text with a slash at its end, or none at all, has an empty last part. -/
private theorem last_part {text : List Char} (blank : (text.splitOn '/').getLast? = some []) :
    text = [] ∨ text.getLast? = some '/' := by
  induction text with
  | nil => exact .inl rfl
  | cons c rest ih =>
    obtain ⟨first, more, parts⟩ := List.exists_cons_of_ne_nil (List.splitOn_ne_nil '/' rest)
    rw [List.splitOn_cons_eq_if_modifyHead, parts] at blank
    rw [parts] at ih
    have slash : c = '/' ∨ more ≠ [] ∧ (first :: more).getLast? = some [] := by
      by_cases slash : c = '/'
      · exact .inl slash
      · cases more with
        | nil => simp [slash] at blank
        | cons next more => exact .inr ⟨List.cons_ne_nil _ _, by simpa [slash] using blank⟩
    rcases slash with rfl | ⟨more, blank⟩
    · rcases ih (by simpa using blank) with rfl | ends
      · exact .inr rfl
      · exact .inr (by simp [List.getLast?_cons, ends])
    · rcases ih blank with rfl | ends
      · cases parts
        exact absurd rfl more
      · exact .inr (by simp [List.getLast?_cons, ends])

/-- The parts of a path that ends with a name are all followed. -/
private theorem followed_parts (filled : path.isEmpty = false)
    (ends : path.toList.getLast? ≠ some '/') :
    ((Route.partsOf path).reverse.dropWhile String.isEmpty).reverse = Route.partsOf path := by
  have last : (path.toList.splitOn '/').getLast? ≠ some [] := by
    intro blank
    rcases last_part blank with none | slash
    · rw [String.toList_eq_nil_iff.mp none] at filled
      cases filled
    · exact ends slash
  have whole : Route.partsOf path = (path.toList.splitOn '/').map String.ofList := rfl
  obtain ⟨front, part, parts⟩ := List.eq_nil_or_concat' (path.toList.splitOn '/') |>.resolve_left
    (List.splitOn_ne_nil '/' path.toList)
  rw [parts, List.getLast?_concat] at last
  have named : (String.ofList part).isEmpty = false := by
    rw [Bool.eq_false_iff]
    intro blank
    simp_all
  rw [whole, parts, List.map_append, List.reverse_append]
  simp [named]

/-- What a path leads to stays where it is as long as no directory is lost. -/
theorem resolve_kept
    (kept : ∀ name, tree.isDirectory name = true → after.isDirectory name = true)
    (found : tree.resolve start parts = .ok name) : after.resolve start parts = .ok name := by
  induction parts generalizing start with
  | nil => exact found
  | cons part rest ih =>
    rw [resolve] at found ⊢
    cases directory : tree.isDirectory start with
    | false => simp [directory] at found
    | true =>
      simp only [directory, kept start directory, Bool.not_true, Bool.false_eq_true, if_false]
        at found ⊢
      by_cases here : part = "" ∨ part = "."
      · rw [if_pos here] at found ⊢
        exact ih found
      rw [if_neg here] at found ⊢
      by_cases up : part = ".."
      · rw [if_pos up] at found ⊢
        exact ih found
      · rw [if_neg up] at found ⊢
        exact ih found

/-- Putting a file into a tree loses no directory. -/
private theorem directories_kept (name : List String) (content : String)
    (directory : tree.isDirectory start = true) :
    (FileTree.mk ((name, content) :: tree.files.filter fun file => file.1 != name)).isDirectory
      start = true := by
  rw [isDirectory, Bool.or_eq_true] at directory ⊢
  rcases directory with outside | inside
  · exact .inl outside
  · obtain ⟨file, member, below⟩ := List.any_eq_true.mp inside
    refine .inr (List.any_eq_true.mpr ?_)
    by_cases same : file.1 = name
    · rw [same] at below
      exact ⟨(name, content), List.mem_cons_self, below⟩
    · have others : file ∈ tree.files.filter fun file => file.1 != name := by
        simp [member, same]
      exact ⟨file, List.mem_cons_of_mem _ others, below⟩

/-- A path that leads anywhere has a name in it, and all of its parts are followed. -/
private theorem route_parts {route : Route} (named : Route.ofPath? path = .ok route) :
    path.isEmpty = false ∧ route.parts = Route.partsOf path := by
  unfold Route.ofPath? at named
  split at named
  · cases named
  split at named
  · cases named
  next filled =>
    split at named
    · cases named
    · cases named
      exact ⟨Bool.eq_false_iff.mpr filled, rfl⟩

/-- The path names the null device, which holds nothing. -/
def NamesDevice (path : String) : Prop :=
  ∃ (tree : FileTree) (route : Route), Route.ofPath? path = .ok route ∧
    tree.resolve route.start route.parts = .ok nullDevice

/-- A write replaces the content of the file that the path leads to, unless that is
the device. -/
private theorem write_cases (written : tree.write path content = .ok after) :
    ∃ route name, Route.ofPath? path = .ok route ∧ tree.resolve route.start route.parts = .ok name ∧
      (name = nullDevice ∨
        after = ⟨(name, content) :: tree.files.filter fun file => file.1 != name⟩) := by
  unfold FileTree.write at written
  cases named : Route.ofPath? path with
  | error fault =>
    rw [named] at written
    cases written
  | ok route =>
    obtain ⟨filled, whole⟩ := route_parts named
    simp only [named, bind, Except.bind] at written
    split at written
    · cases written
    next name found =>
    split at written
    · cases written
    next place =>
    split at written
    · cases written
    rw [Bool.or_eq_true, not_or, decide_eq_true_eq] at place
    -- Reading follows the empty parts at the end as well; here there are none.
    rw [whole, followed_parts filled place.2, ← whole] at found
    refine ⟨route, name, rfl, found, ?_⟩
    split at written
    next device => exact .inl device
    · cases written
      exact .inr rfl

/-- What was written to a path is read there. -/
theorem read_written (written : tree.write path content = .ok after)
    (keeps : ¬ NamesDevice path) : after.read path = .ok content := by
  obtain ⟨route, name, named, found, device | rfl⟩ := write_cases written
  · subst device
    exact absurd ⟨tree, route, named, found⟩ keeps
  · have kept := resolve_kept (fun _ => directories_kept name content) found
    simp only [FileTree.read, named, kept, bind, Except.bind, content?, List.lookup_cons_self]

section Surroundings

variable {σ : Type}

/-- What can be seen of a state of the surroundings, and the paths that name no
ordinary file. -/
structure View (σ : Type) where
  /-- All that the stream has taken so far. -/
  printed : Stream → σ → String
  /-- What is written to a device need not be found there. -/
  device : String → Prop
  /-- Writing to a path that is linked to a standard stream prints on it. -/
  linked : String → Prop

/-- Nothing has been printed. -/
def View.Quiet (view : View σ) (state after : σ) : Prop :=
  ∀ stream, view.printed stream after = view.printed stream state

/-- The stream has taken the text. The other stream and the files are as they were. -/
structure Printed (place : Surroundings (StateM σ)) (view : View σ) (stream : Stream)
    (text : String) (state after : σ) : Prop where
  taken : view.printed stream after = view.printed stream state ++ text
  others : ∀ other, other ≠ stream → view.printed other after = view.printed other state
  files : ∀ path, ¬ view.device path → ¬ view.linked path →
    ((place.readFile path).run after).1 = ((place.readFile path).run state).1

/-- Reading changes nothing. What was written to a path is read there, unless the path
names a device, and nothing is printed by it, unless the path is linked to a stream.
A stream that does not refuse what is printed has taken it. Nothing is said about
when a stream refuses, or about what it has taken then. -/
structure Faithful (place : Surroundings (StateM σ)) (view : View σ) : Prop where
  input : ∀ state, (place.readInput.run state).2 = state
  file : ∀ path state, ((place.readFile path).run state).2 = state
  keeps : ∀ path content state after, ¬ view.device path →
    (place.writeFile path content).run state = (.ok (), after) →
      ((place.readFile path).run after).1 = .ok content
  quiet : ∀ path content state result after, ¬ view.linked path →
    (place.writeFile path content).run state = (result, after) → view.Quiet state after
  prints : ∀ stream text state after, (place.print stream text).run state = (.ok (), after) →
    Printed place view stream text state after

end Surroundings

/-- In a workplace the tree of files decides what a write does. -/
theorem workplace_write (place : Workplace) (path content : String) :
    (Workplace.surroundings.writeFile path content).run place =
      match place.tree.write path content with
      | .ok tree => (.ok (), { place with tree })
      | .error fault => (.error fault, place) := by
  cases written : place.tree.write path content with
  | ok tree =>
    simp only [Workplace.surroundings, StateT.run_bind, StateT.run_get, pure_bind, written]
    rfl
  | error fault =>
    simp only [Workplace.surroundings, StateT.run_bind, StateT.run_get, pure_bind, written]
    rfl

/-- The channel of a stream decides whether it takes a text. -/
theorem workplace_print (place : Workplace) (stream : Stream) (text : String) :
    (Workplace.surroundings.print stream text).run place =
      match (place.channel stream).take text with
      | .ok channel => (.ok (), place.withChannel channel stream)
      | .error fault => (.error fault, place) := by
  cases taken : (place.channel stream).take text with
  | ok channel =>
    simp only [Workplace.surroundings, Workplace.print, StateT.run_bind, StateT.run_get, pure_bind,
      taken]
    rfl
  | error fault =>
    simp only [Workplace.surroundings, Workplace.print, StateT.run_bind, StateT.run_get, pure_bind,
      taken]
    rfl

private theorem channel_replaced (place : Workplace) (channel : Channel) (stream : Stream) :
    (place.withChannel channel stream).channel stream = channel := by
  cases stream <;> rfl

private theorem channel_kept (place : Workplace) (channel : Channel) {stream other : Stream}
    (differ : other ≠ stream) :
    (place.withChannel channel stream).channel other = place.channel other := by
  cases stream <;> cases other <;> first | rfl | exact absurd rfl differ

private theorem tree_kept (place : Workplace) (channel : Channel) (stream : Stream) :
    (place.withChannel channel stream).tree = place.tree := by
  cases stream <;> rfl

/-- A channel that takes a text has it at its end. -/
private theorem take_printed {channel next : Channel} {text : String}
    (taken : channel.take text = .ok next) : next.printed = channel.printed ++ text := by
  unfold Channel.take at taken
  split at taken <;> cases taken
  rfl

/-- The streams of a workplace are its channels, and no path leads to them. -/
def workplaceView : View Workplace where
  printed := fun stream place => (place.channel stream).printed
  device := NamesDevice
  linked := fun _ => False

theorem workplace_faithful : Faithful Workplace.surroundings workplaceView where
  input := by
    rintro ⟨_ | text, tree, output, errors⟩
    · rfl
    · rfl
  file := by
    intro path state
    rfl
  keeps := by
    intro path content state after plain ran
    rw [workplace_write] at ran
    cases written : state.tree.write path content with
    | error fault =>
      rw [written] at ran
      cases ran
    | ok tree =>
      rw [written] at ran
      cases ran
      exact read_written written plain
  quiet := by
    intro path content state result after apart ran stream
    rw [workplace_write] at ran
    split at ran
    · cases ran
      cases stream <;> rfl
    · cases ran
      rfl
  prints := by
    intro stream text state after ran
    rw [workplace_print] at ran
    split at ran
    · next channel taken =>
      cases ran
      constructor
      · simp only [workplaceView, channel_replaced]
        exact take_printed taken
      · intro other differ
        simp only [workplaceView, channel_kept state channel differ]
      · intro path plain apart
        exact congrArg (FileTree.read · path) (tree_kept state channel stream)
    · cases ran

end ValueGrammar.Files
