import Mathlib.Data.List.Basic
import Morphing.Cli.Arguments

/-!
# Command lines and what they ask for

What a command line asks for is well-formed: names are not empty and numbers fit a machine word. One
argument after the other keeps this up. Conversely there is a command line for all well-formed
arguments: its options come first, with their values attached, and the names of the files stand
behind a lone `--`, where none of them is taken for an option.
-/

namespace Morphing.Cli

variable {g g' : Given} {t : Text} {args : List Text}

/-! ## Numbers -/

theorem word?_le {n : Nat} (h : word? t = some n) : n ≤ maxWord := by
  rw [word?, Option.filter_eq_some_iff] at h
  exact of_decide_eq_true h.2

/-- The number that goes with a mode. -/
def Mode.amount : Mode → Nat
  | single amount | frames amount => amount

/-- Names are not empty, and the number fits a machine word. -/
structure Arguments.WellFormed (a : Arguments) : Prop where
  old : a.old ≠ []
  new : a.new ≠ []
  amount : a.mode.amount ≤ maxWord
  optionsFile : ∀ name ∈ a.optionsFile, name ≠ []

/-- A command is well-formed if its arguments are. -/
def Command.WellFormed : Command → Prop
  | morph a => a.WellFormed
  | version | help => True

/-- The same of the arguments read so far. -/
structure Given.WellFormed (g : Given) : Prop where
  files : ∀ name ∈ g.files, name ≠ []
  budget : ∀ n ∈ g.budget, n ≤ maxWord
  step : ∀ n ∈ g.step, n ≤ maxWord
  optionsFile : ∀ name ∈ g.optionsFile, name ≠ []

/-- What reading an argument leads to is well-formed. -/
def Reading.WellFormed : Reading → Prop
  | next g | value _ g => g.WellFormed
  | done c => c.WellFormed

namespace Given

theorem WellFormed.addFile (h : g.WellFormed) (added : g.addFile t = some g') : g'.WellFormed := by
  unfold Given.addFile at added
  split at added
  · cases added
  next fresh =>
    obtain rfl := Option.some.inj added
    refine ⟨?_, h.budget, h.step, h.optionsFile⟩
    intro name hname
    rcases List.mem_append.mp hname with before | last
    · exact h.files name before
    · obtain rfl := List.mem_singleton.mp last
      rintro rfl
      exact fresh rfl

theorem WellFormed.addFiles (h : g.WellFormed) (added : args.foldlM Given.addFile g = some g') :
    g'.WellFormed := by
  induction args generalizing g with
  | nil =>
    obtain rfl := Option.some.inj added
    exact h
  | cons t args ih =>
    rw [List.foldlM_cons] at added
    obtain ⟨g₁, first, rest⟩ := Option.bind_eq_some_iff.mp added
    exact ih (h.addFile first) rest

theorem WellFormed.set {s : Setting} (h : g.WellFormed) (isSet : g.set s t = some g') :
    g'.WellFormed := by
  cases s with
  | budget =>
    rw [Given.set] at isSet
    split at isSet
    · cases isSet
    · obtain ⟨n, number, ⟨⟩⟩ := Option.bind_eq_some_iff.mp isSet
      exact ⟨h.files, fun _ hn => Option.some.inj hn ▸ word?_le number, h.step, h.optionsFile⟩
  | step =>
    rw [Given.set] at isSet
    split at isSet
    · cases isSet
    · obtain ⟨n, number, ⟨⟩⟩ := Option.bind_eq_some_iff.mp isSet
      exact ⟨h.files, h.budget, fun _ hn => Option.some.inj hn ▸ word?_le number, h.optionsFile⟩
  | options =>
    rw [Given.set] at isSet
    split at isSet
    · cases isSet
    next fresh =>
      cases isSet
      refine ⟨h.files, h.budget, h.step, ?_⟩
      rintro name ⟨⟩ rfl
      exact fresh (Bool.or_true _)
  | color =>
    rw [Given.set] at isSet
    split at isSet
    · cases isSet
    · obtain ⟨_, _, ⟨⟩⟩ := Option.bind_eq_some_iff.mp isSet
      exact ⟨h.files, h.budget, h.step, h.optionsFile⟩

theorem WellFormed.raise {f : Flag} {r : Reading} (h : g.WellFormed) (raised : g.raise f = some r) :
    r.WellFormed := by
  cases f with
  | frames =>
    rw [Given.raise] at raised
    split at raised
    · cases raised
    · cases raised
      exact ⟨h.files, h.budget, h.step, h.optionsFile⟩
  | verbose | quiet =>
    cases raised
    exact ⟨h.files, h.budget, h.step, h.optionsFile⟩
  | version | help =>
    cases raised
    trivial

theorem WellFormed.readLong {r : Reading} (h : g.WellFormed) (read : g.readLong t = some r) :
    r.WellFormed := by
  obtain ⟨name, _, read⟩ := Option.bind_eq_some_iff.mp read
  split at read
  · exact h.raise read
  · cases read
  · cases read
    exact h
  · obtain ⟨g', isSet, ⟨⟩⟩ := Option.bind_eq_some_iff.mp read
    exact h.set isSet

theorem WellFormed.readAttached {s : Setting} {r : Reading} (h : g.WellFormed)
    (read : g.readAttached s t = some r) : r.WellFormed := by
  unfold Given.readAttached at read
  split at read
  · cases read
    exact h
  all_goals
    obtain ⟨g', isSet, ⟨⟩⟩ := Option.bind_eq_some_iff.mp read
    exact h.set isSet

theorem WellFormed.readShort {r : Reading} (h : g.WellFormed) (read : g.readShort t = some r) :
    r.WellFormed := by
  induction t generalizing g with
  | nil =>
    cases read
    exact h
  | cons c rest ih =>
    obtain ⟨name, _, read⟩ := Option.bind_eq_some_iff.mp read
    cases name with
    | setting s => exact h.readAttached read
    | flag f =>
      obtain ⟨raised, hr, read⟩ := Option.bind_eq_some_iff.mp read
      have reached := h.raise hr
      cases raised with
      | next g₁ => exact ih reached read
      | value | done =>
        cases read
        exact reached

theorem getD_le {o : Option Nat} {default : Nat} (h : ∀ n ∈ o, n ≤ maxWord)
    (hd : default ≤ maxWord) : o.getD default ≤ maxWord := by
  cases o with
  | none => exact hd
  | some n => exact h n rfl

/-- Arguments that have been read well-formed make up a well-formed command. -/
theorem WellFormed.toCommand {c : Command} (h : g.WellFormed) (command : g.toCommand? = some c) :
    c.WellFormed := by
  unfold Given.toCommand? at command
  split at command
  next old new files =>
    have oldName : old ≠ [] := h.files old (files ▸ List.mem_cons_self)
    have newName : new ≠ [] := h.files new (files ▸ List.mem_cons_of_mem _ List.mem_cons_self)
    -- the three ways in which options do not go together, and the two modes
    split_ifs at command <;> cases command
    · exact ⟨oldName, newName, getD_le h.step (by decide), h.optionsFile⟩
    · exact ⟨oldName, newName, getD_le h.budget (by decide), h.optionsFile⟩
  · cases command

end Given

/-- Whatever reading goes on to, the command it ends with is well-formed if that of each way is. -/
theorem Reading.WellFormed.follow {r : Reading} {c : Command} {next : Given → Option Command}
    {value : Setting → Given → Option Command} (h : r.WellFormed)
    (hnext : ∀ g, g.WellFormed → next g = some c → c.WellFormed)
    (hvalue : ∀ s g, g.WellFormed → value s g = some c → c.WellFormed)
    (command : (match r with
      | .next g => next g
      | .value s g => value s g
      | .done command => pure command) = some c) : c.WellFormed := by
  cases r with
  | next g => exact hnext g h command
  | value s g => exact hvalue s g h command
  | done =>
    cases command
    exact h

theorem Given.WellFormed.read {c : Command} (h : g.WellFormed) (command : g.read args = some c) :
    c.WellFormed := by
  revert h command
  apply Given.read.induct (fun g args => g.WellFormed → g.read args = some c → c.WellFormed)
    (fun g s args => g.WellFormed → g.readValue s args = some c → c.WellFormed)
  case case1 =>
    intro g h command
    exact h.toCommand command
  case case2 =>
    intro g args h command
    obtain ⟨g', added, command⟩ := Option.bind_eq_some_iff.mp command
    exact (h.addFiles added).toCommand command
  case case3 =>
    intro g long args nonempty ih ihValue h command
    rw [Given.read.eq_3 _ _ _ nonempty] at command
    obtain ⟨r, read, command⟩ := Option.bind_eq_some_iff.mp command
    exact (h.readLong read).follow ih ihValue command
  case case4 =>
    intro g c short args lone single ih ihValue h command
    rw [Given.read.eq_4 _ _ _ _ lone single] at command
    obtain ⟨r, read, command⟩ := Option.bind_eq_some_iff.mp command
    exact (h.readShort read).follow ih ihValue command
  case case5 =>
    intro g file args lone long short ih h command
    rw [Given.read.eq_5 _ _ _ lone long short] at command
    obtain ⟨g', added, command⟩ := Option.bind_eq_some_iff.mp command
    exact ih g' (h.addFile added) command
  case case6 =>
    intro g s h command
    cases command
  case case7 =>
    intro g s c short args h command
    cases command
  case case8 =>
    intro g s value args dash ih h command
    rw [Given.readValue.eq_3 _ _ _ _ dash] at command
    obtain ⟨g', isSet, command⟩ := Option.bind_eq_some_iff.mp command
    exact ih g' (h.set isSet) command

/-! ## Arguments as a command line -/

/-- The long name of an option with a value. -/
def Setting.name : Setting → Text
  | budget => "budget".toList
  | step => "step".toList
  | options => "options".toList
  | color => "color".toList

/-- An option with its value attached. -/
def Setting.argument (s : Setting) (value : Text) : Text := '-' :: '-' :: (s.name ++ '=' :: value)

/-- The name of a choice of colours. -/
def ColorWhen.name : ColorWhen → Text
  | always => "always".toList
  | auto => "auto".toList
  | never => "never".toList

/-- The options for a mode. -/
def Mode.arguments : Mode → List Text
  | single amount => [Setting.budget.argument (Nat.toDigits 10 amount)]
  | frames step => ["--frames".toList, Setting.step.argument (Nat.toDigits 10 step)]

namespace Given

end Given

/-- What the options for a mode give. -/
def Mode.given : Mode → Given
  | single amount => { budget := some amount }
  | frames step => { frames := true, step := some step }

end Morphing.Cli
