import DockCheck.CommandLine
import DockCheck.Proofs.Traversal

/-!
# What arguments ask for

`Options.AreOf` says of options that each of them is what the last argument for it says, or what is
usual where there is none, and the options that arguments are read as are just these
(`Options.ofArguments_eq_ok_iff`).  So an argument in front of others counts where these say nothing
of the same (`ofArguments_verbose_cons`, `ofArguments_precision_cons`, `ofArguments_policy_cons`).
-/

namespace DockCheck.CommandLine

/-! ### Arguments in front of others -/

namespace Arguments

variable {other : OptionName}

/-- A value in front counts if there is none behind it. -/
lemma last?_withOption (option : OptionName) (value : Text) (arguments : Arguments) :
    (arguments.withOption option value).last? other
      = if other = option then (arguments.last? other).or (some value)
        else arguments.last? other := by
  by_cases h : other = option
  · subst h
    simp [last?, withOption, List.lookup_append]
  · have hne : (other == option) = false := by simpa using h
    simp [last?, withOption, List.lookup_append, List.lookup_cons, hne, h]

lemma read_flag (option : OptionName) (h : option.takesValue = false) (given : List Text) :
    read (option.long :: given) = (read given).map (·.withOption option []) := by
  have hone : readOne option.long = .ok (.flags [option]) := by
    revert h
    cases option <;> decide
  rw [read, hone]
  rfl

lemma read_option (option : OptionName) (h : option.takesValue = true) (value : Text)
    (given : List Text) :
    read (option.long :: value :: given) = (read given).map (·.withOption option value) := by
  have hone : readOne option.long = .ok (.awaiting [] option) := by
    revert h
    cases option <;> decide
  rw [read, hone]
  rfl

end Arguments

/-! ### Options -/

/-- A choice is made by the name of what is chosen. -/
lemma choice_eq_ok_iff {α : Type} {all : List α} {name : α → Text}
    (hall : ∀ a, (all.find? fun b => name b == name a) = some a) {option : OptionName}
    {arguments : Arguments} {a : Option α} :
    choice all name option arguments = .ok a ↔ a.map name = arguments.last? option := by
  unfold choice
  cases arguments.last? option with
  | none => simp [eq_comm]
  | some t =>
    rw [Option.map_eq_some_iff]
    simp only [← find?_name_eq_some_iff hall]
    cases all.find? fun b => name b == t <;> simp [eq_comm]

namespace Options

/-- Each option is what the last argument for it says, or what is usual, and no argument is left
over. -/
structure AreOf (arguments : Arguments) (options : Options) : Prop where
  dockerfile : options.dockerfile = pathOf .dockerfile arguments
  standards : options.standards = pathOf .standards arguments
  tools : options.tools = pathOf .tools arguments
  precision : options.precision.map Precision.name = arguments.last? .precision
  policy : options.policy.map MatchPolicy.name = arguments.last? .matching
  format : options.format.name = (arguments.last? .format).getD Format.text.name
  verbose : options.verbose = arguments.has .verbose
  others : arguments.others = []

variable {arguments : Arguments} {options : Options}

/-- The options of arguments are those that the arguments say. -/
theorem ofArguments_eq_ok_iff : ofArguments arguments = .ok options ↔ AreOf arguments options := by
  have hformat : ∀ format : Format, (Format.all.find? fun b => b.name == format.name)
      = some format := by
    intro format
    cases format <;> decide
  constructor
  · intro h
    unfold ofArguments at h
    rcases hprecision : choice Precision.all Precision.name .precision arguments with _ | precision
      <;> simp only [hprecision, bind, Except.bind] at h
    · cases h
    rcases hpolicy : choice MatchPolicy.all MatchPolicy.name .matching arguments with _ | policy
      <;> simp only [hpolicy] at h
    · cases h
    rcases hchoice : choice Format.all Format.name .format arguments with _ | format
      <;> simp only [hchoice] at h
    · cases h
    rcases hothers : arguments.others with _ | ⟨t, others⟩ <;> simp only [hothers] at h
    · cases h
      refine ⟨rfl, rfl, rfl, (choice_eq_ok_iff Precision.ofName?_name).mp hprecision,
        (choice_eq_ok_iff MatchPolicy.ofName?_name).mp hpolicy, ?_, rfl, hothers⟩
      rw [← (choice_eq_ok_iff hformat).mp hchoice, Option.getD_map]
    · cases h
  · intro h
    have hprecision := (choice_eq_ok_iff Precision.ofName?_name).mpr h.precision
    have hpolicy := (choice_eq_ok_iff MatchPolicy.ofName?_name).mpr h.policy
    obtain ⟨format, hchoice, hget⟩ : ∃ format,
        choice Format.all Format.name .format arguments = .ok format
          ∧ format.getD .text = options.format := by
      cases hlast : arguments.last? .format with
      | none =>
        refine ⟨none, (choice_eq_ok_iff hformat).mpr hlast.symm, name_injective hformat ?_⟩
        rw [h.format, hlast]
        rfl
      | some t =>
        have hname : options.format.name = t := by rw [h.format, hlast, Option.getD_some]
        refine ⟨some options.format, (choice_eq_ok_iff hformat).mpr ?_, rfl⟩
        rw [hlast, ← hname, Option.map_some]
    unfold ofArguments
    simp only [hprecision, hpolicy, hchoice, hget, h.others, bind, Except.bind, pure, Except.pure,
      ← h.dockerfile, ← h.standards, ← h.tools, ← h.verbose]

/-! What an argument in front says of an option changes what the arguments say of no other one. -/

lemma AreOf.withVerbose (h : AreOf arguments options) :
    AreOf (arguments.withOption .verbose []) { options with verbose := true } := by
  obtain ⟨dockerfile, standards, tools, precision, policy, format, -, others⟩ := h
  refine ⟨?_, ?_, ?_, ?_, ?_, ?_, ?_, others⟩
  all_goals simp [pathOf, Arguments.has, Arguments.last?_withOption, *]

lemma AreOf.withPrecision (h : AreOf arguments options) (p : Precision) :
    AreOf (arguments.withOption .precision p.name)
      { options with precision := options.precision.or (some p) } := by
  obtain ⟨dockerfile, standards, tools, precision, policy, format, verbose, others⟩ := h
  refine ⟨?_, ?_, ?_, ?precision, ?_, ?_, ?_, others⟩
  case precision =>
    rw [Option.map_or, precision, Arguments.last?_withOption, if_pos rfl, Option.map_some]
  all_goals simp [pathOf, Arguments.has, Arguments.last?_withOption, *]

lemma AreOf.withPolicy (h : AreOf arguments options) (m : MatchPolicy) :
    AreOf (arguments.withOption .matching m.name)
      { options with policy := options.policy.or (some m) } := by
  obtain ⟨dockerfile, standards, tools, precision, policy, format, verbose, others⟩ := h
  refine ⟨?_, ?_, ?_, ?_, ?policy, ?_, ?_, others⟩
  case policy =>
    rw [Option.map_or, policy, Arguments.last?_withOption, if_pos rfl, Option.map_some]
  all_goals simp [pathOf, Arguments.has, Arguments.last?_withOption, *]

end Options

/-! ### Requests -/

namespace Request

variable {given others : List Text} {request : Request} {change : Options → Options}

/-- The request with other options. -/
def withOptions (change : Options → Options) : Request → Request
  | help => help
  | check options => check (change options)

/-- The request in which a check keeps all records, or those of a level. -/
def withVerbose (verbose : Bool) : Request → Request :=
  withOptions fun options => { options with verbose := verbose }

lemma ofArguments_eq_ok_iff :
    ofArguments given = .ok request
      ↔ ∃ arguments, Arguments.read given = .ok arguments
        ∧ match request with
          | help => arguments.has .help = true
          | check options => arguments.has .help = false ∧ Options.AreOf arguments options := by
  simp only [← Options.ofArguments_eq_ok_iff]
  unfold ofArguments
  cases hread : Arguments.read given with
  | error error => simp [bind, Except.bind]
  | ok arguments =>
    cases hhelp : arguments.has .help with
    | true => cases request <;> simp [bind, Except.bind, pure, Except.pure, hhelp]
    | false =>
      cases hoptions : Options.ofArguments arguments <;> cases request <;>
        simp [bind, Except.bind, pure, Except.pure, hhelp, hoptions]

/-- An option in front of other arguments changes the options, but not whether help is asked for. -/
lemma ofArguments_of_withOption {option : OptionName} {value : Text}
    (hread : Arguments.read others = (Arguments.read given).map (·.withOption option value))
    (hhelp : option ≠ .help)
    (hchange : ∀ {arguments options}, Options.AreOf arguments options →
      Options.AreOf (arguments.withOption option value) (change options))
    (h : ofArguments given = .ok request) :
    ofArguments others = .ok (request.withOptions change) := by
  rw [ofArguments_eq_ok_iff] at h ⊢
  obtain ⟨arguments, hgiven, h⟩ := h
  refine ⟨arguments.withOption option value, by rw [hread, hgiven, Except.map], ?_⟩
  have hsame : (arguments.withOption option value).has .help = arguments.has .help := by
    rw [Arguments.has, Arguments.last?_withOption, if_neg hhelp.symm, Arguments.has]
  cases request with
  | help => exact hsame.trans h
  | check options => exact ⟨hsame.trans h.1, hchange h.2⟩

theorem ofArguments_verbose_cons (h : ofArguments given = .ok request) :
    ofArguments ("--verbose" :: given) = .ok (request.withVerbose true) :=
  ofArguments_of_withOption (Arguments.read_flag .verbose rfl given) nofun
    Options.AreOf.withVerbose h

theorem ofArguments_precision_cons (p : Precision) (h : ofArguments given = .ok request) :
    ofArguments ("--precision" :: p.name :: given) = .ok (request.withOptions fun options =>
      { options with precision := options.precision.or (some p) }) :=
  ofArguments_of_withOption (Arguments.read_option .precision rfl p.name given) nofun
    (fun h => h.withPrecision p) h

theorem ofArguments_policy_cons (m : MatchPolicy) (h : ofArguments given = .ok request) :
    ofArguments ("--match" :: m.name :: given) = .ok (request.withOptions fun options =>
      { options with policy := options.policy.or (some m) }) :=
  ofArguments_of_withOption (Arguments.read_option .matching rfl m.name given) nofun
    (fun h => h.withPolicy m) h

end Request

end DockCheck.CommandLine
