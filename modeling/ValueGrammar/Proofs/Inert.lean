import Mathlib.Data.List.Infix
import ValueGrammar.Proofs.Grammar.Viability
import ValueGrammar.Proofs.Spelling

/-! Tokens that decide nothing. What stands among the arguments of a function is
skipped up to the parenthesis that closes it, and a multiplier behind another one
or behind a function is read and dropped. The tokens around them mean the same
with and without them, wherever they stand. -/
namespace ValueGrammar.Inert
open Entity Grammar Viability Places Spelling

variable {reading next : Reading} {progress : Progress} {outer : List (Span × Progress)}
  {call : Call} {token other opener opener' closing closing' first second : Token}
  {front front' back back' left right before before' arguments arguments' more : List Token}

instance (tokens : List Token) : Decidable (Balanced tokens) :=
  decidable_of_iff (openings tokens = closings tokens ∧
      ∀ before ∈ tokens.inits, closings before ≤ openings before) <| by
    simp only [Grammar.Balanced, List.mem_inits]

/-- Tokens that every reading goes through alike can be put for each other. -/
theorem read_alike (same : ∀ reading : Reading, reading.run left = reading.run right)
    (front : List Token) : ofTokens (front ++ left) = ofTokens (front ++ right) := by
  have behind : (fun reading : Reading => reading.run left) = fun reading => reading.run right :=
    funext same
  rw [of_tokens_eq, of_tokens_eq, run_append, run_append, behind]

/-- Among arguments only the kind of a token counts. -/
private theorem step_kind (kinds : token.kind = other.kind) :
    Reading.step ⟨progress, outer, some call⟩ token =
      Reading.step ⟨progress, outer, some call⟩ other := by
  simp only [Reading.step, Reading.skip, kinds]

/-- What opens a function opens it as a term or inside the arguments of another one;
it is open either way. -/
theorem step_opener (opens : opener.kind = .functionOpen) (reading : Reading) :
    ∃ call, reading.step opener = .ok { reading with call := some call } := by
  obtain ⟨progress, outer, call⟩ := reading
  cases call with
  | none =>
    refine ⟨{ name := String.ofList opener.text.toList.dropLast, span := opener.span }, ?_⟩
    simp only [Reading.step, Reading.read, opens]
  | some call =>
    refine ⟨{ call with depth := call.depth + 1 }, ?_⟩
    simp only [Reading.step, Reading.skip, opens]

/-- Balanced arguments leave the function open as they find it, and which parenthesis
closes it makes no difference. -/
theorem run_skipped (opens : opener.kind = .functionOpen) (balanced : Balanced arguments)
    (closes : closing.kind = .parenClose) (closes' : closing'.kind = .parenClose)
    (more : List Token) (reading : Reading) :
    reading.run (opener :: (arguments ++ closing :: more)) =
      reading.run (opener :: closing' :: more) := by
  obtain ⟨call, opened⟩ := step_opener opens reading
  have covered (before : List Token) (shorter : before <+: arguments) :
      closings before ≤ call.depth + openings before :=
    Nat.le_trans (balanced.2 before shorter) (Nat.le_add_left ..)
  have depth : call.depth + openings arguments - closings arguments = call.depth := by
    rw [balanced.1, Nat.add_sub_cancel]
  rw [run_step opened, run_step opened, run_arguments arguments covered, depth]
  simp only [Reading.run, step_kind (closes.trans closes'.symm)]

/-- A parenthesis for the one that closes a function, at the place of what opens it. -/
private def shut (opener : Token) : Token := ⟨.parenClose, ")", opener.span⟩

private theorem shut_closes (opener : Token) : (shut opener).kind = .parenClose := rfl

/-- Lists that are alike are alike in front of a token, there and behind it. -/
private theorem alike_around {R : Token → Token → Prop} (length : front.length = front'.length)
    (alike : List.Forall₂ R (front ++ opener :: back) (front' ++ opener' :: back')) :
    List.Forall₂ R front front' ∧ R opener opener' ∧ List.Forall₂ R back back' := by
  induction front generalizing front' with
  | nil =>
    obtain rfl := List.length_eq_zero_iff.mp length.symm
    exact ⟨.nil, List.forall₂_cons.mp alike⟩
  | cons token front ih =>
    obtain ⟨other, front', rfl⟩ :=
      List.exists_cons_of_length_eq_add_one length.symm
    obtain ⟨head, tail⟩ := List.forall₂_cons.mp alike
    obtain ⟨fronts, others⟩ := ih (Nat.succ.inj length) tail
    exact ⟨.cons head fronts, others⟩

/-- What stands among the arguments of a function has no influence. Two lists of
tokens that differ in nothing else write the same sequence, or are refused for the
same cause at the same one of the other tokens. -/
theorem arguments_have_no_influence
    (fronts : front.map spelling = front'.map spelling)
    (openers : spelling opener = spelling opener') (opens : opener.kind = .functionOpen)
    (balanced : Balanced arguments) (balanced' : Balanced arguments')
    (closes : closing.kind = .parenClose) (closes' : closing'.kind = .parenClose)
    (backs : back.map spelling = back'.map spelling) :
    SameOutcome (SameIndex (front ++ opener :: back) (front' ++ opener' :: back')) Eq
      (ofTokens (front ++ opener :: (arguments ++ closing :: back)))
      (ofTokens (front' ++ opener' :: (arguments' ++ closing' :: back'))) := by
  have same : (front ++ opener :: back).map spelling = (front' ++ opener' :: back').map spelling := by
    simp only [List.map_append, List.map_cons, fronts, openers, backs]
  have length : front.length = front'.length := by
    simpa using congrArg List.length fronts
  obtain ⟨alike, heads, tails⟩ := alike_around length (same_tokens same)
  have opens' : opener'.kind = .functionOpen := heads.kind.symm.trans opens
  have skipped := read_alike (run_skipped opens balanced closes (shut_closes opener) back)
  have skipped' := read_alike (run_skipped opens' balanced' closes' (shut_closes opener') back')
  -- The parentheses that were skipped may stand anywhere; those put for them are alike.
  have closed : SameToken (SameIndex (front ++ opener :: back) (front' ++ opener' :: back'))
      (shut opener) (shut opener') := ⟨rfl, rfl, heads.span⟩
  rw [skipped, skipped']
  exact of_tokens_alike (List.rel_append alike (.cons heads (.cons closed tails)))

/-- A range out of order, a bar, a bracket and a stray ampersand are skipped like
nothing at all. Either way the combinator behind the function lacks an operand. -/
theorem strays_among_arguments_are_skipped :
    ∃ front opener arguments closing back front' opener' closing' back',
      Token.lex "[ a || f( b( \x7b2,1\x7d | ) ] & ) && ] c" =
        front ++ opener :: (arguments ++ closing :: back) ∧
      Token.lex "[ a || f() && ] c" = front' ++ opener' :: ([] ++ closing' :: back') ∧
      Balanced arguments ∧ arguments.length = 6 ∧
      ofTokens (front ++ opener :: (arguments ++ closing :: back)) =
        .error ⟨.danglingCombinator .doubleAmpersand, ⟨29, 31⟩⟩ ∧
      ofTokens (front' ++ opener' :: ([] ++ closing' :: back')) =
        .error ⟨.danglingCombinator .doubleAmpersand, ⟨11, 13⟩⟩ ∧
      SameOutcome (SameIndex (front ++ opener :: back) (front' ++ opener' :: back')) Eq
        (ofTokens (front ++ opener :: (arguments ++ closing :: back)))
        (ofTokens (front' ++ opener' :: ([] ++ closing' :: back'))) := by
  let tokens := Token.lex "[ a || f( b( \x7b2,1\x7d | ) ] & ) && ] c"
  let others := Token.lex "[ a || f() && ] c"
  refine ⟨tokens.take 3, tokens[3]!, (tokens.drop 4).take 6, tokens[10]!, tokens.drop 11,
    others.take 3, others[3]!, others[4]!, others.drop 5, ?_, ?_, ?_, ?_, ?_, ?_,
    arguments_have_no_influence ?_ ?_ ?_ ?_ ?_ ?_ ?_ ?_⟩
  all_goals decide +kernel

/-- The tokens end with a multiplier, wherever it stands, or with a function and its
arguments. -/
inductive Saturated : List Token → Prop where
  | repeated (front : List Token) {last : Token} (repeats : last.kind.isMultiplier = true) :
    Saturated (front ++ [last])
  | called (front : List Token) {opener closing : Token} {arguments : List Token}
    (opens : opener.kind = .functionOpen) (balanced : Balanced arguments)
    (closes : closing.kind = .parenClose) :
    Saturated (front ++ opener :: (arguments ++ [closing]))

/-- A multiplier behind another one leaves the term as it is. -/
private theorem repeat_again (progress : Progress) (multiplier later : Multiplier) :
    (progress.repeatLast multiplier).repeatLast later = progress.repeatLast multiplier := by
  obtain ⟨items, pending⟩ := progress
  cases items with
  | nil => rfl
  | cons last items =>
    have again : addMultiplier later (addMultiplier multiplier last) =
        addMultiplier multiplier last := by
      rcases last with ⟨_, _ | _⟩ | ⟨_, _ | _⟩ | ⟨_, _ | _⟩ | _ | _ <;> rfl
    simp only [Progress.repeatLast, again]

private theorem repeat_ends (progress : Progress) (multiplier : Multiplier) :
    (progress.repeatLast multiplier).endsWithTerm = progress.endsWithTerm := by
  obtain ⟨items, pending⟩ := progress
  cases items <;> rfl

/-- Among arguments a multiplier is skipped. -/
private theorem step_multiplier_skipped (repeats : token.kind.isMultiplier = true) :
    Reading.step ⟨progress, outer, some call⟩ token = .ok ⟨progress, outer, some call⟩ := by
  obtain ⟨kind, text, span⟩ := token
  cases kind <;> first | rfl | cases repeats

/-- Outside of arguments a multiplier repeats the latest term. -/
private theorem step_multiplier {multiplier : Multiplier} (ends : progress.endsWithTerm = true)
    (written : multiplierOf token = some multiplier) :
    Reading.step ⟨progress, outer, none⟩ token =
      .ok ⟨progress.repeatLast multiplier, outer, none⟩ :=
  step_repeat ends ⟨token, multiplier, repeats_iff.mp written⟩

/-- A multiplier that has been read repeats a term, and one more changes nothing. -/
theorem step_again {multiplier : Multiplier} (repeats : first.kind.isMultiplier = true)
    (written : multiplierOf second = some multiplier) (stepped : reading.step first = .ok next) :
    next.step second = .ok next := by
  have repeats' : second.kind.isMultiplier = true := repeats_kind (repeats_iff.mp written)
  obtain ⟨progress, outer, call⟩ := reading
  cases call with
  | some call =>
    rw [step_multiplier_skipped repeats] at stepped
    cases stepped
    exact step_multiplier_skipped repeats'
  | none =>
    rw [step_read, read_multiplier repeats, Reading.readMultiplier] at stepped
    dsimp only at stepped
    split at stepped
    · rename_i ends
      split at stepped
      · cases stepped
        rw [step_multiplier ((repeat_ends ..).trans ends) written, repeat_again]
      · cases stepped
    · cases stepped

/-- What is read without an error goes on from where its first part ends. -/
private theorem run_behind (ran : reading.run (left ++ right) = .ok next) :
    ∃ middle : Reading, middle.run right = .ok next := by
  rw [run_append] at ran
  cases parted : reading.run left with
  | error error =>
    rw [parted] at ran
    cases ran
  | ok middle =>
    rw [parted] at ran
    exact ⟨middle, ran⟩

private theorem run_single (reading : Reading) (token : Token) :
    reading.run [token] = reading.step token := by
  unfold Reading.run
  cases reading.step token <;> rfl

/-- A function is a term that takes no multiplier. -/
private theorem called_again {multiplier : Multiplier} (opens : opener.kind = .functionOpen)
    (closes : closing.kind = .parenClose) (written : multiplierOf second = some multiplier)
    (ran : reading.run [opener, closing] = .ok next) : next.step second = .ok next := by
  obtain ⟨progress, outer, call⟩ := reading
  cases call with
  | some call =>
    have skipped : Reading.run ⟨progress, outer, some call⟩ [opener, closing] =
        .ok ⟨progress, outer, some call⟩ := by
      simp only [Reading.run, Reading.step, Reading.skip, opens, closes]
    rw [skipped] at ran
    cases ran
    exact step_multiplier_skipped (repeats_kind (repeats_iff.mp written))
  | none =>
    have added : Reading.run ⟨progress, outer, none⟩ [opener, closing] = .ok
        ⟨progress.addTerm (function (String.ofList opener.text.toList.dropLast)), outer, none⟩ := by
      simp only [Reading.run, Reading.step, Reading.read, Reading.skip, opens, closes,
        Reading.addTerm]
    rw [added] at ran
    cases ran
    rw [step_multiplier (add_term_ends ..) written, repeat_add_term]
    rfl

/-- Behind tokens that end with a multiplier or with a function one more multiplier
is read without a trace. -/
theorem saturated_again {multiplier : Multiplier} (saturated : Saturated before)
    (written : multiplierOf second = some multiplier) (ran : reading.run before = .ok next) :
    next.step second = .ok next := by
  cases saturated with
  | repeated front repeats =>
    obtain ⟨middle, stepped⟩ := run_behind ran
    rw [run_single] at stepped
    exact step_again repeats written stepped
  | @called front opener closing arguments opens balanced closes =>
    obtain ⟨middle, called⟩ := run_behind ran
    rw [run_skipped opens balanced closes closes] at called
    exact called_again opens closes written called

/-- A token of a multiplier writes one, unless it is a range that is refused. -/
private theorem multiplier_written (repeats : token.kind.isMultiplier = true)
    (ordered : token.kind = .curlyRange → Multiplier.ofRange? token.text ≠ none) :
    ∃ multiplier, multiplierOf token = some multiplier := by
  obtain ⟨kind, text, span⟩ := token
  cases kind with
  | curlyRange => exact Option.ne_none_iff_exists'.mp (ordered rfl)
  | asterisk | plusSign | questionMark | hashMark | exclamationPoint => exact ⟨_, rfl⟩
  | _ => cases repeats

/-- A multiplier has no effect behind another one, and none behind a function with
its arguments, unless it is a range that is refused. Without it the tokens write the
same sequence, or are refused for the same cause at the same one of the others. -/
theorem later_multipliers_have_no_effect (saturated : Saturated before)
    (repeats : second.kind.isMultiplier = true)
    (ordered : second.kind = .curlyRange → Multiplier.ofRange? second.text ≠ none)
    (befores : before.map spelling = before'.map spelling)
    (backs : back.map spelling = back'.map spelling) :
    SameOutcome (SameIndex (before ++ back) (before' ++ back')) Eq
      (ofTokens (before ++ second :: back)) (ofTokens (before' ++ back')) := by
  have same : (before ++ back).map spelling = (before' ++ back').map spelling := by
    rw [List.map_append, List.map_append, befores, backs]
  obtain ⟨multiplier, written⟩ := multiplier_written repeats ordered
  have dropped : ofTokens (before ++ second :: back) = ofTokens (before ++ back) := by
    rw [of_tokens_eq, of_tokens_eq, run_append, run_append]
    cases ran : Reading.run {} before with
    | error error => rfl
    | ok next =>
      have again : next.run (second :: back) = next.run back :=
        run_step (saturated_again saturated written ran)
      exact congrArg (·.bind Reading.finish) again
  rw [dropped]
  exact of_tokens_alike (same_tokens same)

/-- Of two multipliers in a group the second one is dropped, and so is the one behind
the function. The bar that comes second is refused where it stands, and the function
stays a term. -/
theorem stacked_and_called_are_dropped :
    (∃ before second back before' back',
      Token.lex "[ a+# ] | |" = before ++ second :: back ∧ Token.lex "[ a+ ] | |" = before' ++ back' ∧
      Saturated before ∧ ofTokens (before ++ second :: back) =
        .error ⟨.danglingCombinator .singleBar, ⟨10, 11⟩⟩ ∧
      SameOutcome (SameIndex (before ++ back) (before' ++ back')) Eq
        (ofTokens (before ++ second :: back)) (ofTokens (before' ++ back'))) ∧
    ∃ before second back before' back',
      Token.lex "a f( ( ]? ) )\x7b2\x7d [ b ]" = before ++ second :: back ∧
      Token.lex "a f( ( ]? ) ) [ b ]" = before' ++ back' ∧
      Saturated before ∧ ofTokens (before ++ second :: back) =
        .ok [keyword "a" none, combinator .juxtaposition, function "f",
          combinator .juxtaposition, group [keyword "b" none] none] ∧
      SameOutcome (SameIndex (before ++ back) (before' ++ back')) Eq
        (ofTokens (before ++ second :: back)) (ofTokens (before' ++ back')) := by
  constructor
  · let tokens := Token.lex "[ a+# ] | |"
    let others := Token.lex "[ a+ ] | |"
    have saturated : Saturated (tokens.take 2 ++ [tokens[2]!]) := .repeated _ (by decide +kernel)
    refine ⟨_, tokens[3]!, tokens.drop 4, others.take 3, others.drop 3, ?_, ?_, saturated, ?_,
      later_multipliers_have_no_effect saturated ?_ ?_ ?_ ?_⟩
    all_goals decide +kernel
  · let tokens := Token.lex "a f( ( ]? ) )\x7b2\x7d [ b ]"
    let others := Token.lex "a f( ( ]? ) ) [ b ]"
    have saturated :
        Saturated (tokens.take 1 ++ tokens[1]! :: ((tokens.drop 2).take 4 ++ [tokens[6]!])) :=
      .called _ (by decide +kernel) (by decide +kernel) (by decide +kernel)
    refine ⟨_, tokens[7]!, tokens.drop 8, others.take 7, others.drop 7, ?_, ?_, saturated, ?_,
      later_multipliers_have_no_effect saturated ?_ ?_ ?_ ?_⟩
    all_goals decide +kernel

end ValueGrammar.Inert
