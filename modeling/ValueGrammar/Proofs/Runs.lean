import Mathlib.Data.List.TakeWhile

/-! Runs of characters of one class. A run is settled once a character outside
the class follows it, whatever comes after that. -/
namespace ValueGrammar.Runs

variable {p : Char → Bool} {run rest text after tail : List Char}

/-- The text does not go on with a character of the class. -/
def Stops (p : Char → Bool) (text : List Char) : Prop :=
  ∀ c, text.head? = some c → p c = false

theorem stops_nil : Stops p [] := by
  intro c first
  cases first

theorem stops_cons (outside : p c = false) : Stops p (c :: text) := by
  intro d first
  cases first
  exact outside

/-- A run that is followed by no further character of its class is taken whole. -/
theorem run_taken (inside : ∀ c ∈ run, p c = true) (stops : Stops p rest) :
    (run ++ rest).takeWhile p = run := by
  rw [List.takeWhile_append_of_pos inside]
  cases rest with
  | nil => exact List.append_nil run
  | cons c rest => rw [List.takeWhile_cons_of_neg (by simp [stops c rfl]), List.append_nil]

theorem run_dropped (inside : ∀ c ∈ run, p c = true) (stops : Stops p rest) :
    (run ++ rest).dropWhile p = rest := by
  rw [List.dropWhile_append_of_pos inside]
  cases rest with
  | nil => rfl
  | cons c rest => exact List.dropWhile_cons_of_neg (by simp [stops c rfl])

/-- A run, and what follows it, can be told from the whole. -/
theorem run_apart (inside : ∀ c ∈ run, p c = true) (inside' : ∀ c ∈ text, p c = true)
    (stops : Stops p rest) (stops' : Stops p tail) (same : run ++ rest = text ++ tail) :
    run = text ∧ rest = tail := by
  have taken := run_taken inside stops
  have dropped := run_dropped inside stops
  rw [same, run_taken inside' stops'] at taken
  rw [same, run_dropped inside' stops'] at dropped
  exact ⟨taken.symm, dropped.symm⟩

/-- What stands in front of the first mark, and behind it, can be told from the
whole. -/
theorem mark_apart {mark : Char} (absent : mark ∉ run) (absent' : mark ∉ text)
    (same : run ++ mark :: rest = text ++ mark :: tail) : run = text ∧ rest = tail := by
  have others : ∀ {part : List Char}, mark ∉ part → ∀ c ∈ part, (c != mark) = true := by
    intro part absent c member
    rw [bne_iff_ne]
    rintro rfl
    exact absent member
  have ends : ∀ part, Stops (· != mark) (mark :: part) := fun _ => stops_cons (by simp)
  obtain ⟨rfl, behind⟩ := run_apart (others absent) (others absent') (ends rest) (ends tail) same
  exact ⟨rfl, (List.cons.inj behind).2⟩

/-- The character that ends a run is outside its class. -/
theorem run_ends (rests : text.dropWhile p = c :: after) : p c = false := by
  have outside := List.head_dropWhile_not p (l := text) (by simp [rests])
  simpa [rests] using outside

private theorem rest_stops (ends : text.dropWhile p ≠ [] ∨ Stops p tail) :
    Stops p (text.dropWhile p ++ tail) := by
  cases rests : text.dropWhile p with
  | nil => exact ends.resolve_left (fun more => more rests)
  | cons c after => exact stops_cons (run_ends rests)

/-- What comes behind a text cannot lengthen a run that ends inside of it, nor
one that it does not go on with. -/
theorem run_taken_append (ends : text.dropWhile p ≠ [] ∨ Stops p tail) :
    (text ++ tail).takeWhile p = text.takeWhile p := by
  have inside : ∀ c ∈ text.takeWhile p, p c = true := fun _ member =>
    List.mem_takeWhile_imp member
  have taken := run_taken inside (rest_stops ends)
  rwa [← List.append_assoc, List.takeWhile_append_dropWhile] at taken

theorem run_dropped_append (ends : text.dropWhile p ≠ [] ∨ Stops p tail) :
    (text ++ tail).dropWhile p = text.dropWhile p ++ tail := by
  have inside : ∀ c ∈ text.takeWhile p, p c = true := fun _ member =>
    List.mem_takeWhile_imp member
  have dropped := run_dropped inside (rest_stops ends)
  rwa [← List.append_assoc, List.takeWhile_append_dropWhile] at dropped

end ValueGrammar.Runs
