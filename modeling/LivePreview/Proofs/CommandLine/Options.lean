import LivePreview.CommandLine.Usage

namespace LivePreview.CommandLine

/-! Options as a command reads them.  They may be spelled in several ways; all come to the same, the
options accepted one by one in their order. -/

theorem splitAtEquals_append {before : List Char} (none : '=' ∉ before) (after : List Char) :
    splitAtEquals (before ++ '=' :: after) = (before, some after) := by
  induction before with
  | nil => rfl
  | cons c rest ih =>
      rw [List.mem_cons, not_or] at none
      rw [List.cons_append, splitAtEquals, if_neg (Ne.symm none.1), ih none.2]

theorem splitAtEquals_of_not_mem {chars : List Char} (none : '=' ∉ chars) :
    splitAtEquals chars = (chars, .none) := by
  induction chars with
  | nil => rfl
  | cons c rest ih =>
      rw [List.mem_cons, not_or] at none
      rw [splitAtEquals, if_neg (Ne.symm none.1), ih none.2]

theorem toList_equals (before after : String) :
    (before ++ "=" ++ after).toList = before.toList ++ '=' :: after.toList := by
  simp only [String.toList_append, List.append_assoc]
  rfl

namespace Shape

theorem of_dashes {argument : String} {rest : List Char}
    (chars : argument.toList = '-' :: '-' :: rest) (more : rest ≠ []) :
    Shape.of argument =
      .long (String.ofList (splitAtEquals rest).1) ((splitAtEquals rest).2.map String.ofList) := by
  rw [Shape.of, chars]
  cases rest with
  | nil => exact (more rfl).elim
  | cons c rest => rfl

theorem of_alone {name : String} (plain : '=' ∉ name.toList) (named : name ≠ "") :
    Shape.of ("--" ++ name) = .long name none := by
  have chars : ("--" ++ name).toList = '-' :: '-' :: name.toList := by
    rw [String.toList_append]
    rfl
  rw [of_dashes chars (mt String.toList_eq_nil_iff.mp named), splitAtEquals_of_not_mem plain,
    String.ofList_toList]
  rfl

theorem of_joined {name : String} (plain : '=' ∉ name.toList) (value : String) :
    Shape.of ("--" ++ name ++ "=" ++ value) = .long name (some value) := by
  have chars : ("--" ++ name ++ "=" ++ value).toList =
      '-' :: '-' :: (name.toList ++ '=' :: value.toList) := by
    rw [toList_equals, String.toList_append]
    rfl
  rw [of_dashes chars (by simp), splitAtEquals_append plain, String.ofList_toList, Option.map_some,
    String.ofList_toList]

theorem of_undashed {argument : String}
    (undashed : argument = "-" ∨ ¬ ['-'] <+: argument.toList) : Shape.of argument = .operand := by
  rcases undashed with rfl | undashed
  · rfl
  unfold Shape.of
  split
  next chars => exact (undashed (chars ▸ List.prefix_append ['-'] ['-'])).elim
  next rest _ chars => exact (undashed (chars ▸ List.prefix_append ['-'] ('-' :: rest))).elim
  next letter rest _ _ chars =>
      exact (undashed (chars ▸ List.prefix_append ['-'] (letter :: rest))).elim
  next => rfl

end Shape

/-- Nothing waits to be looked at, and options may follow. -/
structure Given.Ready (given : Given) : Prop where
  settled : given.pending = none
  unescaped : given.escaped = false

namespace Given

variable {given next : Given} {option : OptionSpec} {value : String}

theorem Ready.settle (ready : given.Ready) : given.settle = .ok given := by
  rw [Given.settle, ready.settled]

theorem Ready.accept (ready : given.Ready) (accepts : given.accept option value = .ok next) :
    next.Ready := by
  unfold Given.accept at accepts
  split at accepts
  next => cases accepts
  next =>
      split at accepts
      next =>
          cases accepts
          exact ⟨ready.settled, ready.unescaped⟩
      next => cases accepts
      next => cases accepts

theorem ready_of_settle (unescaped : given.escaped = false) (settles : given.settle = .ok next) :
    next.Ready := by
  unfold Given.settle at settles
  split at settles
  next settled =>
      cases settles
      exact ⟨settled, unescaped⟩
  next => cases settles
  next =>
      have ready : Given.Ready { given with pending := none } := ⟨rfl, unescaped⟩
      exact ready.accept settles

end Given

/-- What is found by the name of the option is the option itself. -/
structure CommandSpec.Offers (command : CommandSpec) (option : OptionSpec) : Prop where
  found : command.options.find? (fun other => other.name == option.name) = some option
  named : option.name ≠ ""
  plain : '=' ∉ option.name.toList
  special : option.name ≠ "help"

/-- An option with its value, as arguments.  A value that stands apart must not look like an
option. -/
inductive Spelled (command : CommandSpec) : OptionSpec → String → List String → Prop
  | switch {option : OptionSpec} (offers : command.Offers option) (kind : option.kind = .switch) :
      Spelled command option "" ["--" ++ option.name]
  | joined {option : OptionSpec} {placeholder : String} {repeatable : Bool}
      {check : String → Option Complaint} (offers : command.Offers option)
      (kind : option.kind = .valued placeholder repeatable check) (value : String) :
      Spelled command option value ["--" ++ option.name ++ "=" ++ value]
  | apart {option : OptionSpec} {placeholder value : String} {repeatable : Bool}
      {check : String → Option Complaint} (offers : command.Offers option)
      (kind : option.kind = .valued placeholder repeatable check)
      (undashed : value = "-" ∨ ¬ ['-'] <+: value.toList) :
      Spelled command option value ["--" ++ option.name, value]

inductive Spells (command : CommandSpec) : List (OptionSpec × String) → List String → Prop
  | nil : Spells command [] []
  | cons {option : OptionSpec} {value : String} {arguments rest : List String}
      {options : List (OptionSpec × String)} (own : Spelled command option value arguments)
      (more : Spells command options rest) :
      Spells command ((option, value) :: options) (arguments ++ rest)

/-- Accepts options one after the other. -/
def Given.acceptAll (given : Given) (options : List (OptionSpec × String)) : Except Stop Given :=
  options.foldlM (fun given option => given.accept option.1 option.2) given

namespace CommandSpec

variable {command : CommandSpec} {given : Given} {option : OptionSpec} {value : String}

theorem step_long {argument : String} {value : Option String} (offers : command.Offers option)
    (unescaped : given.escaped = false) (shape : Shape.of argument = .long option.name value) :
    command.step given argument = given.addLong command.options option.name value := by
  rw [CommandSpec.step, unescaped, shape]
  simp only [Bool.false_eq_true, if_false]
  split
  next other => cases other
  next other => cases other
  next other => cases other
  next other => cases other
  next same =>
      injection same with name _
      exact (offers.special name).elim
  next same =>
      injection same with name value
      rw [name, value]

theorem step_switch (offers : command.Offers option) (unescaped : given.escaped = false)
    (kind : option.kind = .switch) :
    command.step given ("--" ++ option.name) =
      given.settle.bind fun given => given.accept option "" := by
  rw [step_long offers unescaped (Shape.of_alone offers.plain offers.named), Given.addLong,
    offers.found]
  simp only [kind]
  rfl

theorem step_joined {placeholder : String} {repeatable : Bool}
    {check : String → Option Complaint} (offers : command.Offers option)
    (unescaped : given.escaped = false)
    (kind : option.kind = .valued placeholder repeatable check) (value : String) :
    command.step given ("--" ++ option.name ++ "=" ++ value) =
      given.settle.bind fun given => given.accept option value := by
  rw [step_long offers unescaped (Shape.of_joined offers.plain value), Given.addLong,
    offers.found]
  simp only [kind]
  rfl

theorem step_waiting {placeholder : String} {repeatable : Bool}
    {check : String → Option Complaint} (offers : command.Offers option)
    (unescaped : given.escaped = false)
    (kind : option.kind = .valued placeholder repeatable check) :
    command.step given ("--" ++ option.name) =
      given.settle.bind fun given => .ok { given with pending := some (option, none) } := by
  rw [step_long offers unescaped (Shape.of_alone offers.plain offers.named), Given.addLong,
    offers.found]
  simp only [kind]
  rfl

theorem step_awaited (unescaped : given.escaped = false)
    (undashed : value = "-" ∨ ¬ ['-'] <+: value.toList) :
    command.step { given with pending := some (option, none) } value =
      .ok { given with pending := some (option, some value) } := by
  rw [CommandSpec.step, Shape.of_undashed undashed]
  simp only [unescaped, Bool.false_eq_true, if_false]
  rfl

end CommandSpec

/-- Arguments either end the reading as accepting the option does, or lead on, with the option
accepted once what waits has been looked at. -/
inductive Leads (accepted : Except Stop Given) : Except Stop Given → Prop
  | stops {stop : Stop} (refuses : accepted = .error stop) : Leads accepted (.error stop)
  | goesOn {next : Given} (unescaped : next.escaped = false) (settles : next.settle = accepted) :
      Leads accepted (.ok next)

namespace Spelled

variable {command : CommandSpec} {given : Given} {option : OptionSpec} {value argument : String}
variable {arguments : List String}

theorem offers (own : Spelled command option value arguments) : command.Offers option := by
  cases own with
  | switch offers | joined offers | apart offers => exact offers

theorem leads_of_accepted (unescaped : given.escaped = false)
    (steps : command.step given argument =
      given.settle.bind fun given => given.accept option value) :
    Leads (given.settle.bind fun given => given.accept option value)
      ([argument].foldlM command.step given) := by
  rw [List.foldlM_cons, steps]
  cases settles : given.settle with
  | error stop => exact .stops rfl
  | ok settled =>
      simp only [Except.bind]
      cases accepts : settled.accept option value with
      | error stop => exact .stops rfl
      | ok next =>
          have ready := (Given.ready_of_settle unescaped settles).accept accepts
          exact .goesOn ready.unescaped ready.settle

theorem leads (own : Spelled command option value arguments) (unescaped : given.escaped = false) :
    Leads (given.settle.bind fun given => given.accept option value)
      (arguments.foldlM command.step given) := by
  cases own with
  | switch offers kind =>
      exact leads_of_accepted unescaped (CommandSpec.step_switch offers unescaped kind)
  | joined offers kind =>
      exact leads_of_accepted unescaped (CommandSpec.step_joined offers unescaped kind value)
  | apart offers kind undashed =>
      rw [List.foldlM_cons, CommandSpec.step_waiting offers unescaped kind]
      cases settles : given.settle with
      | error stop => exact .stops rfl
      | ok settled =>
          have ready := Given.ready_of_settle unescaped settles
          have waits : [value].foldlM command.step { settled with pending := some (option, none) } =
              .ok { settled with pending := some (option, some value) } := by
            rw [List.foldlM_cons, CommandSpec.step_awaited ready.unescaped undashed]
            rfl
          simp only [bind, Except.bind] at waits ⊢
          rw [waits]
          refine .goesOn ready.unescaped ?_
          obtain ⟨pending, options, operands, escaped⟩ := settled
          cases ready.settled
          rfl

end Spelled

theorem Given.settle_acceptAll (given : Given) (option : OptionSpec) (value : String)
    (options : List (OptionSpec × String)) :
    given.settle.bind (fun given => given.acceptAll ((option, value) :: options)) =
      (given.settle.bind fun given => given.accept option value).bind
        fun given => given.acceptAll options := by
  cases given.settle <;> rfl

/-- However options are spelled, they are accepted in their order. -/
theorem Spells.settles {command : CommandSpec} {given : Given}
    {options : List (OptionSpec × String)} {arguments : List String}
    (spells : Spells command options arguments) (unescaped : given.escaped = false) :
    (arguments.foldlM command.step given).bind Given.settle =
      given.settle.bind fun given => given.acceptAll options := by
  induction spells generalizing given with
  | nil =>
      cases settles : given.settle with
      | error stop => exact settles
      | ok settled => exact settles
  | cons own _ ih =>
      have leads := own.leads unescaped
      rw [List.foldlM_append, Given.settle_acceptAll]
      generalize List.foldlM command.step given _ = ran at leads ⊢
      cases leads with
      | stops refuses =>
          rw [refuses]
          rfl
      | goesOn unescaped settles =>
          rw [← settles]
          exact ih unescaped

def OptionSpec.refusal? (option : OptionSpec) (value : String) : Option Stop :=
  (option.check value).map fun complaint =>
    match complaint with
    | .empty => .error (.missingValue option.shown)
    | .because reason => .error (.invalidValue value option.shown reason)

/-- No option is given again that may be given but once. -/
def GivenOnce (options : List (OptionSpec × String)) : Prop :=
  options.Pairwise fun earlier later =>
    later.1.repeatable = true ∨ earlier.1.name ≠ later.1.name

namespace Given

variable {given : Given} {options : List (OptionSpec × String)}

/-- Everything that is given after `given`, if nothing is refused. -/
def withOptions (given : Given) (options : List (OptionSpec × String)) : Given :=
  { given with options := given.options ++ options.map fun own => (own.1.name, own.2) }

theorem accept_eq {option : OptionSpec}
    (free : option.repeatable = true ∨ given.has option.name = false) (value : String) :
    given.accept option value =
      match option.refusal? value with
      | some stop => .error stop
      | none => .ok (given.withOptions [(option, value)]) := by
  have free : (given.has option.name && !option.repeatable) = false := by
    rcases free with free | free <;> simp [free]
  rw [accept, free, OptionSpec.refusal?]
  cases option.check value with
  | none => rfl
  | some complaint => cases complaint <;> rfl

theorem has_withOptions (given : Given) (option : OptionSpec) (value name : String) :
    (given.withOptions [(option, value)]).has name = (given.has name || option.name == name) := by
  simp [has, withOptions]

/-- The first option that is refused ends it; else all are there. -/
theorem acceptAll_eq (once : GivenOnce options)
    (free : ∀ own ∈ options, own.1.repeatable = true ∨ given.has own.1.name = false) :
    given.acceptAll options =
      match options.findSome? fun own => own.1.refusal? own.2 with
      | some stop => .error stop
      | none => .ok (given.withOptions options) := by
  induction options generalizing given with
  | nil => simp [acceptAll, withOptions, pure, Except.pure]
  | cons own rest ih =>
      obtain ⟨apart, once⟩ := List.pairwise_cons.mp once
      obtain ⟨here, later⟩ := List.forall_mem_cons.mp free
      have goesOn : given.acceptAll (own :: rest) =
          (given.accept own.1 own.2).bind fun given => given.acceptAll rest := rfl
      rw [goesOn, accept_eq here, List.findSome?_cons]
      cases own.1.refusal? own.2 with
      | some stop => rfl
      | none =>
          have free : ∀ other ∈ rest, other.1.repeatable = true ∨
              (given.withOptions [own]).has other.1.name = false := by
            intro other member
            rw [has_withOptions, Bool.or_eq_false_iff]
            rcases apart other member, later other member with ⟨repeats | apart, repeats | absent⟩
            · exact .inl repeats
            · exact .inl repeats
            · exact .inl repeats
            · exact .inr ⟨absent, beq_false_of_ne apart⟩
          simp only [Except.bind]
          rw [ih once free]
          simp [withOptions]

end Given

theorem CommandSpec.read_spelled {command : CommandSpec} {options : List (OptionSpec × String)}
    {arguments : List String} (plain : command.operands = false)
    (spells : Spells command options arguments) (once : GivenOnce options) :
    command.read arguments =
      match options.findSome? fun own => own.1.refusal? own.2 with
      | some stop => .error stop
      | none => .ok (Given.nothing.withOptions options) := by
  have ready : Given.Ready Given.nothing := ⟨rfl, rfl⟩
  have settles := spells.settles ready.unescaped
  rw [ready.settle] at settles
  have accepts : Given.nothing.acceptAll options = _ :=
    Given.acceptAll_eq once fun _ _ => .inr rfl
  have reads : command.read arguments =
      (arguments.foldlM command.step Given.nothing).bind Given.settle := by
    simp only [CommandSpec.read, plain, Bool.false_and, Bool.false_eq_true, if_false, bind_pure]
    rfl
  rw [reads, settles, ← accepts]
  rfl

end LivePreview.CommandLine
