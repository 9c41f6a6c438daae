import Criteria.Command.Run

/-!
The option that keeps the results to itself.

Whatever the other words are, the option adds nothing to what is read but that it is
there. It has no part in where the document comes from, in what is evaluated, or in
the exit code.
-/

namespace Criteria.Command

namespace Request

namespace Reader

def quieter (reader : Reader) : Reader :=
  { reader with quiet := true }

/-- A step that does the same after the option, unless it meets the option itself, and
that never ends the reading with arguments. -/
structure Ignores (step : Reader → Result) : Prop where
  quieter_eq : ∀ reader next, step reader = .ok next → next.quiet = false →
    reader.quiet = false ∧ step reader.quieter = .ok next.quieter
  ne_run : ∀ reader arguments, step reader ≠ .error (.run arguments)

theorem ignores_pure : Ignores Except.ok where
  quieter_eq := by
    intro reader next stepped quiet
    cases stepped
    exact ⟨quiet, rfl⟩
  ne_run := by
    intro reader arguments stepped
    cases stepped

theorem ignores_error {request : Request}
    (noRun : ∀ arguments, request ≠ .run arguments) :
    Ignores fun _ => .error request where
  quieter_eq := by
    intro reader next stepped
    cases stepped
  ne_run := by
    intro reader arguments stepped
    cases stepped
    exact noRun arguments rfl

theorem ignores_misuse : Ignores fun _ => .error .misuse :=
  ignores_error nofun

theorem ignores_once {taken : Reader → Bool} {next : Reader → Reader}
    (same : ∀ reader : Reader, taken reader.quieter = taken reader)
    (quiet : ∀ reader, (next reader).quiet = reader.quiet)
    (quieter : ∀ reader : Reader, next reader.quieter = (next reader).quieter) :
    Ignores fun reader => if taken reader then .error .misuse else .ok (next reader) where
  quieter_eq := by
    intro reader last stepped loud
    split at stepped
    · cases stepped
    · rename_i first
      cases stepped
      exact ⟨(quiet reader).symm.trans loud, by rw [same, if_neg first, quieter]⟩
  ne_run := by
    intro reader arguments stepped
    split at stepped
    · cases stepped
    · cases stepped

theorem Ignores.bind {step step' : Reader → Result} (ignores : Ignores step)
    (ignores' : Ignores step') : Ignores fun reader => step reader >>= step' where
  quieter_eq := by
    intro reader last stepped loud
    cases first : step reader with
    | error request =>
        rw [first] at stepped
        cases stepped
    | ok next =>
        rw [first] at stepped
        have second := ignores'.quieter_eq next last stepped loud
        have both := ignores.quieter_eq reader next first second.1
        rw [both.2]
        exact ⟨both.1, second.2⟩
  ne_run := by
    intro reader arguments stepped
    cases first : step reader with
    | error request =>
        rw [first] at stepped
        cases stepped
        exact ignores.ne_run reader arguments first
    | ok next =>
        rw [first] at stepped
        exact ignores'.ne_run next arguments stepped

theorem Ignores.foldlM {Item : Type} {step : Reader → Item → Result}
    (ignores : ∀ item, Ignores (step · item)) (items : List Item) :
    Ignores fun reader => items.foldlM step reader := by
  induction items with
  | nil => exact ignores_pure
  | cons item items induction =>
      simp only [List.foldlM_cons]
      exact (ignores item).bind induction

/-! ## The steps of reading -/

theorem ignores_positional (word : String) : Ignores (positional · word) where
  quieter_eq := by
    intro reader next stepped loud
    simp only [positional] at stepped ⊢
    split at stepped
    · rename_i isExpression
      cases stepped
      exact ⟨loud, if_pos isExpression⟩
    · rename_i noExpression
      split at stepped
      · rename_i isFile
        cases stepped
        exact ⟨loud, (if_neg noExpression).trans (if_pos isFile)⟩
      · cases stepped
  ne_run := by
    intro reader arguments stepped
    simp only [positional] at stepped
    split at stepped
    · cases stepped
    · split at stepped
      · cases stepped
      · cases stepped

theorem ignores_setEach : Ignores setEach :=
  ignores_once (fun _ => rfl) (fun _ => rfl) fun _ => rfl

theorem ignores_setLogLevel (level : String) : Ignores (setLogLevel · level) :=
  ignores_once (fun _ => rfl) (fun _ => rfl) fun _ => rfl

theorem ignores_setQuiet : Ignores setQuiet where
  quieter_eq := by
    intro reader next stepped loud
    unfold setQuiet at stepped
    split at stepped
    · cases stepped
    · cases stepped
      cases loud
  ne_run := by
    intro reader arguments stepped
    unfold setQuiet at stepped
    split at stepped
    · cases stepped
    · cases stepped

theorem ignores_short (letter : Char) : Ignores (short · letter) := by
  unfold short
  split
  · exact ignores_setQuiet
  · exact ignores_error nofun
  · exact ignores_error nofun
  · exact ignores_misuse

theorem ignores_long (name : String) (value : Option String) :
    Ignores (long · name value) := by
  unfold long
  split
  · exact ignores_setEach
  · exact ignores_setQuiet
  · exact ignores_setLogLevel _
  · exact ignores_error nofun
  · exact ignores_error nofun
  · exact ignores_misuse

end Reader

theorem ignores_readWords (words : List String) : Reader.Ignores (readWords · words) := by
  -- A word may take the next one with it, so the induction is on the number of words.
  induction size : words.length using Nat.strongRecOn generalizing words with
  | ind _ induction =>
      subst size
      cases words with
      | nil => exact Reader.ignores_pure
      | cons word rest =>
          by_cases isDashes : word = "--"
          · subst isDashes
            exact Reader.Ignores.foldlM Reader.ignores_positional rest
          by_cases isLevel : word = "--log-level"
          · subst isLevel
            cases rest with
            | nil => exact Reader.ignores_misuse
            | cons level rest =>
                have ignores :=
                  induction _ (by simp only [List.length_cons]; omega) rest rfl
                simp only [readWords]
                split
                · exact (Reader.ignores_setLogLevel level).bind ignores
                · exact Reader.ignores_misuse
          · have ignores := induction _ (by simp) rest rfl
            simp only [readWords]
            split
            · exact (Reader.ignores_long _ _).bind ignores
            · exact (Reader.Ignores.foldlM Reader.ignores_short _).bind ignores
            · exact (Reader.ignores_positional word).bind ignores

/-! ## The option before the other words -/

theorem Reader.finish_quieter {reader : Reader} {arguments : Arguments}
    (isRun : reader.finish = .run arguments) :
    reader.quiet = arguments.quiet ∧
      reader.quieter.finish = .run { arguments with quiet := true } := by
  unfold finish at isRun
  split at isRun
  · rename_i expression isExpression
    cases isRun
    refine ⟨rfl, ?_⟩
    rw [finish, quieter]
    simp only [isExpression]
  · cases isRun

theorem ofWords_quiet {words : List String} {arguments : Arguments} {option : String}
    (isRun : ofWords words = .run arguments) (loud : arguments.quiet = false)
    (isOption : option ∈ ["--quiet", "-q"]) :
    ofWords (option :: words) = .run { arguments with quiet := true } := by
  have first : readWords {} (option :: words) = readWords (Reader.quieter {}) words := by
    simp only [List.mem_cons, List.not_mem_nil, or_false] at isOption
    rcases isOption with rfl | rfl
    · rfl
    · rfl
  have ignores := ignores_readWords words
  cases isRead : readWords {} words with
  | error request =>
      rw [ofWords, isRead] at isRun
      subst isRun
      exact absurd isRead (ignores.ne_run _ arguments)
  | ok reader =>
      rw [ofWords, isRead] at isRun
      have finished := Reader.finish_quieter isRun
      have last := (ignores.quieter_eq _ reader isRead (finished.1.trans loud)).2
      rw [ofWords, first, last]
      exact finished.2

end Request

end Criteria.Command
