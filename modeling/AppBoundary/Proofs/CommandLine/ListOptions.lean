-- List options of the command line. A list never holds an empty text, and separators
-- that lead, trail or repeat one another are of no account: a command line with more
-- or fewer of them is read alike, step by step, and the run ends alike.
import AppBoundary.CommandLine.Run
import AppBoundary.Proofs.Sequencing
import AppBoundary.Proofs.Settings.Separators
import Mathlib.Data.List.TakeWhile

namespace AppBoundary.CommandLine

open Settings (SameButSeparators splitList)

/-! ## Texts that say the same -/

/-- The options whose value is a list. -/
def ValueOption.takesList : ValueOption → Bool
  | .patterns | .applicationArtifacts | .libraryArtifacts => true
  | _ => false

/-- What is given for an option says the same: it is the same, or it is the same list. -/
inductive SameText (option : ValueOption) : Option String → Option String → Prop
  | same (text? : Option String) : SameText option text? text?
  | list {text other : String} : option.takesList = true → SameButSeparators text other →
      SameText option (some text) (some other)

/-- Every option is given alike. -/
def SameOptions (first second : Arguments) : Prop :=
  ∀ option, SameText option (first.value? option) (second.value? option)

section
variable {option : ValueOption} {first second : Arguments}

theorem SameText.eq_of_no_list {text? other? : Option String} (h : SameText option text? other?)
    (hlist : option.takesList = false) : text? = other? := by
  cases h with
  | same => rfl
  | list htakes => exact absurd htakes (by simp [hlist])

theorem SameText.isSome_eq {text? other? : Option String} (h : SameText option text? other?) :
    text?.isSome = other?.isSome := by
  cases h <;> rfl

theorem SameOptions.list_eq (h : SameOptions first second) (option : ValueOption) :
    first.list option = second.list option := by
  unfold Arguments.list
  have hsame := h option
  generalize first.value? option = text? at hsame ⊢
  generalize second.value? option = other? at hsame ⊢
  cases hsame with
  | same => rfl
  | list _ hseparators => exact hseparators.splitList_eq

theorem SameOptions.settings_eq (h : SameOptions first second) : first.settings = second.settings := by
  have hvalue : ∀ option : ValueOption, option.takesList = false →
      first.value? option = second.value? option :=
    fun option hlist => (h option).eq_of_no_list hlist
  simp only [Arguments.settings, Arguments.path?, h.list_eq, hvalue .mainClass rfl,
    hvalue .dynamicClassesFile rfl, hvalue .reflectionFactsFile rfl, hvalue .outputDirectory rfl,
    hvalue .runtimeDirectory rfl, hvalue .platformDirectory rfl]

theorem SameOptions.loadSettings_eq (h : SameOptions first second) (tree : FileTree) :
    loadSettings tree first = loadSettings tree second := by
  have hfile := (h .settingsFile).eq_of_no_list rfl
  unfold loadSettings settingsBelow
  rw [h.settings_eq, Arguments.path?, Arguments.path?, hfile]

end

/-! ## Readings that go alike -/

/-- The option that waits is the same, and what it waits with says the same. -/
inductive SameWaiting :
    Option (ValueOption × Option String) → Option (ValueOption × Option String) → Prop
  | none : SameWaiting none none
  | some {option : ValueOption} {text? other? : Option String} : SameText option text? other? →
      SameWaiting (some (option, text?)) (some (option, other?))

/-- What has been given so far says the same. -/
structure Alike (first second : Arguments) : Prop where
  options : SameOptions first second
  switches : first.switches = second.switches
  waiting : SameWaiting first.waiting second.waiting

/-- Two readings go alike: what they give says the same, or both are stopped, for the same reason or by
some fault each. -/
inductive SameReading : Except Stop Arguments → Except Stop Arguments → Prop
  | ok {first second : Arguments} : Alike first second → SameReading (.ok first) (.ok second)
  | stopped (stop : Stop) : SameReading (.error stop) (.error stop)
  | faults (cause other : ArgumentFault) :
      SameReading (.error (.fault cause)) (.error (.fault other))

theorem SameReading.bind {x y : Except Stop Arguments} {f g : Arguments → Except Stop Arguments}
    (h : SameReading x y)
    (hnext : ∀ first second, Alike first second → SameReading (f first) (g second)) :
    SameReading (x >>= f) (y >>= g) := by
  cases h with
  | ok halike => exact hnext _ _ halike
  | stopped stop => exact .stopped stop
  | faults cause other => exact .faults cause other

/-! ## Steps -/

section
variable {option : ValueOption} {first second : Arguments}

theorem SameText.or {text? other? behind? otherBehind? : Option String}
    (h : SameText option text? other?) (hbehind : SameText option behind? otherBehind?) :
    SameText option (text?.or behind?) (other?.or otherBehind?) := by
  cases h with
  | same text? =>
    cases text? with
    | none => exact hbehind
    | some text => exact .same (some text)
  | list htakes hseparators => exact .list htakes hseparators

theorem acceptsEmpty_of_takesList (h : option.takesList = true) : option.acceptsEmpty = true := by
  revert h
  cases option <;> decide

/-- Both texts lack a value, or none does. -/
theorem SameText.isEmpty_eq {text other : String} (h : SameText option (some text) (some other)) :
    (text.isEmpty && !option.acceptsEmpty) = (other.isEmpty && !option.acceptsEmpty) := by
  cases h with
  | same => rfl
  | list hlist _ => simp [acceptsEmpty_of_takesList hlist]

theorem Alike.add {text other : String} (h : Alike first second)
    (hsame : SameText option (some text) (some other)) :
    SameReading (first.add option text) (second.add option other) := by
  unfold Arguments.add
  rw [(h.options option).isSome_eq, hsame.isEmpty_eq]
  split
  · exact .stopped _
  · split
    · exact .stopped _
    · refine .ok ⟨?_, h.switches, h.waiting⟩
      intro asked
      simp only [Arguments.value?, List.lookup_append]
      refine (h.options asked).or ?_
      by_cases hasked : asked = option
      · subst hasked
        simpa using hsame
      · have hother : (asked == option) = false := by simpa using hasked
        simp only [List.lookup_cons, hother]
        exact .same none

theorem Alike.settle (h : Alike first second) : SameReading first.settle second.settle := by
  have hwaiting := h.waiting
  unfold Arguments.settle
  generalize first.waiting = waiting at hwaiting
  generalize second.waiting = otherWaiting at hwaiting
  have hclear : Alike { first with waiting := none } { second with waiting := none } :=
    ⟨h.options, h.switches, .none⟩
  cases hwaiting with
  | none => exact .ok h
  | @some option text? other? hsame =>
    cases text? with
    | none =>
      cases hsame
      exact .stopped _
    | some text =>
      obtain ⟨other, rfl⟩ := Option.isSome_iff_exists.1 hsame.isSome_eq.symm
      exact hclear.add hsame

theorem Alike.await (h : Alike first second) (option : ValueOption) :
    SameReading (first.await option) (second.await option) :=
  h.settle.bind fun _ _ hsettled =>
    .ok ⟨hsettled.options, hsettled.switches, .some (.same none)⟩

theorem Alike.give {text other : String} (h : Alike first second)
    (hsame : SameText option (some text) (some other)) :
    SameReading (first.give option text) (second.give option other) :=
  h.settle.bind fun _ _ hsettled => hsettled.add hsame

theorem Alike.turnOn (h : Alike first second) (option : Opt) :
    SameReading (first.turnOn option) (second.turnOn option) := by
  cases option with
  | value option => exact h.await option
  | switch option =>
    refine h.settle.bind fun settled other hsettled => ?_
    rw [hsettled.switches]
    split
    · exact .stopped _
    · exact .ok ⟨hsettled.options, rfl, hsettled.waiting⟩
  | help => exact h.settle.bind fun _ _ _ => .stopped .help
  | version => exact h.settle.bind fun _ _ _ => .stopped .version

/-! ## Single arguments -/

theorem Alike.readLetters (h : Alike first second) (letters : List Char) :
    SameReading (first.readLetters letters) (second.readLetters letters) := by
  induction letters generalizing first second with
  | nil => exact .ok h
  | cons letter rest ih =>
    unfold Arguments.readLetters
    split
    · exact .stopped _
    · split
      · exact h.await _
      · exact h.give (.same _)
      · exact h.give (.same _)
    · exact (h.turnOn _).bind fun _ _ hon => ih hon

theorem Alike.readName (h : Alike first second) (text : List Char) :
    SameReading (first.readName text) (second.readName text) := by
  unfold Arguments.readName
  dsimp only
  split
  · exact .stopped _
  · exact h.give (.same _)
  · exact .stopped _
  · exact h.turnOn _

theorem Alike.readWord (h : Alike first second) (argument : String) :
    SameReading (first.readWord argument) (second.readWord argument) := by
  have hwaiting := h.waiting
  unfold Arguments.readWord
  generalize first.waiting = waiting at hwaiting
  generalize second.waiting = otherWaiting at hwaiting
  cases hwaiting with
  | none => exact .stopped _
  | @some option text? other? hsame =>
    cases hsame with
    | same text? =>
      cases text? with
      | none => exact .ok ⟨h.options, h.switches, .some (.same _)⟩
      | some text => exact .stopped _
    | list => exact .stopped _

/-- One argument that is not two dashes alone. -/
def Arguments.readOne (arguments : Arguments) (argument : String) : Except Stop Arguments :=
  match argument.toList with
  | '-' :: '-' :: text => arguments.readName text
  | '-' :: c :: text => arguments.readLetters (c :: text)
  | _ => arguments.readWord argument

theorem Alike.readOne (h : Alike first second) (argument : String) :
    SameReading (first.readOne argument) (second.readOne argument) := by
  unfold Arguments.readOne
  split
  · exact h.readName _
  · exact h.readLetters _
  · exact h.readWord _

theorem readAll_cons {arguments : Arguments} {argument : String} (h : argument.toList ≠ ['-', '-'])
    (rest : List String) :
    arguments.readAll (argument :: rest) =
      (arguments.readOne argument >>= fun read => read.readAll rest) := by
  rw [Arguments.readAll.eq_def, Arguments.readOne]
  dsimp only
  split
  · rename_i hdashes
    exact absurd hdashes h
  · rename_i hdashes
    exact absurd hdashes h
  · rename_i hlist _ _
    simp only [hlist]
  · rename_i hdash hlist _ _
    simp only [hlist]
  · rename_i hname hletters _ _
    split
    · exact absurd ‹_› (hname _)
    · exact absurd ‹_› (hletters _ _)
    · rfl

end

/-! ## How a value is given -/

/-- How an option is named: by its name, or by its letter behind the letters of switches. -/
inductive Form
  | name
  | letters (switches : List Switch)

/-- The switches that are turned on in front of the option. -/
def Form.switches : Form → List Switch
  | .name => []
  | .letters switches => switches

/-- The letters of some switches. -/
def switchLetters (switches : List Switch) : List Char :=
  switches.map fun switch => (Opt.switch switch).spelling.letter

/-- An option as an argument names it. -/
def Form.text (option : ValueOption) : Form → String
  | .name => "--" ++ (Opt.value option).spelling.name
  | .letters switches =>
    "-" ++ String.ofList (switchLetters switches ++ [(Opt.value option).spelling.letter])

/-- A text that can stand right behind a letter. Behind an equals sign any text can. -/
def IsAttachable (text : String) : Prop :=
  ∃ c rest, text.toList = c :: rest ∧ c ≠ '='

/-- A text that is read as a word, and not as an option. -/
def IsWord (argument : String) : Prop :=
  ∀ c rest, argument.toList ≠ '-' :: c :: rest

/-- Some switches, one after the other. -/
def Arguments.turnOnAll (arguments : Arguments) (switches : List Switch) : Except Stop Arguments :=
  switches.foldlM (fun arguments switch => arguments.turnOn (.switch switch)) arguments

theorem Alike.turnOnAll {first second : Arguments} (h : Alike first second) (switches : List Switch) :
    SameReading (first.turnOnAll switches) (second.turnOnAll switches) := by
  induction switches generalizing first second with
  | nil => exact .ok h
  | cons switch rest ih =>
    rw [Arguments.turnOnAll, Arguments.turnOnAll, List.foldlM_cons, List.foldlM_cons]
    exact (h.turnOn _).bind fun _ _ hon => ih hon

/-- An option is found by its name and by its letter, and neither is taken for something else. -/
theorem spelling_facts (option : ValueOption) :
    let spelling := (Opt.value option).spelling
    spelling.name.toList ≠ [] ∧ '=' ∉ spelling.name.toList ∧ spelling.letter ≠ '-' ∧
      Opt.ofName? spelling.name = some (.value option) ∧
      Opt.ofLetter? spelling.letter = some (.value option) := by
  cases option <;> decide

theorem switch_spelling_facts (switch : Switch) :
    (Opt.switch switch).spelling.letter ≠ '-' ∧
      Opt.ofLetter? (Opt.switch switch).spelling.letter = some (.switch switch) := by
  cases switch <;> decide

/-- The first equals sign behind a name does not stand in it. -/
theorem name_ne_equals (option : ValueOption) :
    ∀ c ∈ (Opt.value option).spelling.name.toList, decide (c ≠ '=') = true := by
  obtain ⟨-, hequals, -⟩ := spelling_facts option
  intro c hc
  exact decide_eq_true fun heq => hequals (heq ▸ hc)

section
variable {text : String} (arguments : Arguments) (option : ValueOption) (form : Form)

theorem readLetters_switches (switches : List Switch) (letters : List Char) :
    arguments.readLetters (switchLetters switches ++ letters) =
      (arguments.turnOnAll switches >>= fun on => on.readLetters letters) := by
  induction switches generalizing arguments with
  | nil => rfl
  | cons switch rest ih =>
    have hoption := (switch_spelling_facts switch).2
    rw [switchLetters, List.map_cons, List.cons_append, Arguments.readLetters, hoption,
      Arguments.turnOnAll, List.foldlM_cons, bind_assoc]
    exact bind_congr fun on => ih on

/-- The letters of switches in front of the letter of an option, and of whatever follows it. -/
theorem readOne_letters {switches : List Switch} {argument : String} {rest : List Char}
    (h : argument.toList =
      '-' :: (switchLetters switches ++ (Opt.value option).spelling.letter :: rest)) :
    argument.toList ≠ ['-', '-'] ∧
      arguments.readOne argument = (arguments.turnOnAll switches >>= fun on =>
        on.readLetters ((Opt.value option).spelling.letter :: rest)) := by
  obtain ⟨-, -, hletter, -⟩ := spelling_facts option
  -- The first letter is no dash, so the argument is read as letters.
  have hread : ∀ c letters, c ≠ '-' → argument.toList = '-' :: c :: letters →
      argument.toList ≠ ['-', '-'] ∧
        arguments.readOne argument = arguments.readLetters (c :: letters) := by
    intro c letters hc hlist
    refine ⟨by simp [hlist, hc], ?_⟩
    simp only [Arguments.readOne, hlist]
  rw [← readLetters_switches]
  cases switches with
  | nil => exact hread _ _ hletter h
  | cons switch later => exact hread _ _ (switch_spelling_facts switch).1 h

theorem readOne_equals (text : String) :
    (form.text option ++ "=" ++ text).toList ≠ ['-', '-'] ∧
      arguments.readOne (form.text option ++ "=" ++ text) =
        (arguments.turnOnAll form.switches >>= fun on => on.give option text) := by
  obtain ⟨-, -, -, hfound, hletter⟩ := spelling_facts option
  have hname := name_ne_equals option
  cases form with
  | name =>
    have hlist : (Form.name.text option ++ "=" ++ text).toList =
        '-' :: '-' :: ((Opt.value option).spelling.name.toList ++ '=' :: text.toList) := by
      simp [Form.text]
    refine ⟨by simp [hlist], ?_⟩
    simp only [Arguments.readOne, hlist, Arguments.readName, List.takeWhile_append_of_pos hname,
      List.dropWhile_append_of_pos hname]
    simp [hfound, Form.switches, Arguments.turnOnAll]
  | letters switches =>
    obtain ⟨hdashes, hread⟩ := @readOne_letters arguments option switches
      ((Form.letters switches).text option ++ "=" ++ text) ('=' :: text.toList) (by simp [Form.text])
    refine ⟨hdashes, hread.trans (bind_congr fun on => ?_)⟩
    simp [Arguments.readLetters, hletter]

theorem readOne_attached {switches : List Switch} (h : IsAttachable text) :
    ((Form.letters switches).text option ++ text).toList ≠ ['-', '-'] ∧
      arguments.readOne ((Form.letters switches).text option ++ text) =
        (arguments.turnOnAll switches >>= fun on => on.give option text) := by
  obtain ⟨-, -, -, -, hletter⟩ := spelling_facts option
  obtain ⟨hdashes, hread⟩ := @readOne_letters arguments option switches
    ((Form.letters switches).text option ++ text) text.toList (by simp [Form.text])
  refine ⟨hdashes, hread.trans (bind_congr fun on => ?_)⟩
  obtain ⟨c, rest, hlist, hc⟩ := h
  rw [Arguments.readLetters, hletter]
  dsimp only
  split
  · rename_i hnil
    rw [hnil] at hlist
    cases hlist
  · rename_i hequals
    rw [hequals, List.cons.injEq] at hlist
    exact absurd hlist.1.symm hc
  · rw [String.ofList_toList]

theorem readOne_form :
    (form.text option).toList ≠ ['-', '-'] ∧
      arguments.readOne (form.text option) =
        (arguments.turnOnAll form.switches >>= fun on => on.await option) := by
  obtain ⟨hnonempty, -, -, hfound, hletter⟩ := spelling_facts option
  have hname := name_ne_equals option
  cases form with
  | name =>
    have hlist : (Form.name.text option).toList =
        '-' :: '-' :: (Opt.value option).spelling.name.toList := by simp [Form.text]
    refine ⟨by simpa [hlist] using hnonempty, ?_⟩
    simp only [Arguments.readOne, hlist, Arguments.readName, List.takeWhile_eq_self_iff.2 hname,
      List.dropWhile_eq_nil_iff.2 hname]
    simp [hfound, Arguments.turnOn, Form.switches, Arguments.turnOnAll]
  | letters switches =>
    obtain ⟨hdashes, hread⟩ := @readOne_letters arguments option switches
      ((Form.letters switches).text option) [] (by simp [Form.text])
    refine ⟨hdashes, hread.trans (bind_congr fun on => ?_)⟩
    rw [Arguments.readLetters, hletter]

theorem readOne_word (h : IsWord text) :
    text.toList ≠ ['-', '-'] ∧ arguments.readOne text = arguments.readWord text := by
  refine ⟨h '-' [], ?_⟩
  unfold Arguments.readOne
  split
  · exact absurd ‹_› (h _ _)
  · exact absurd ‹_› (h _ _)
  · rfl

end

/-! ## Whole command lines -/

/-- Two command lines that differ in nothing but separators in the values of list options. A value stands
behind an equals sign, right behind a letter, or as an argument of its own. -/
inductive Respelled : List String → List String → Prop
  | nil : Respelled [] []
  | same (argument : String) {given other : List String} : Respelled given other →
      Respelled (argument :: given) (argument :: other)
  | equals {option : ValueOption} (form : Form) {text otherText : String} {given other : List String} :
      option.takesList = true → SameButSeparators text otherText → Respelled given other →
      Respelled ((form.text option ++ "=" ++ text) :: given)
        ((form.text option ++ "=" ++ otherText) :: other)
  | attached {option : ValueOption} (switches : List Switch) {text otherText : String}
      {given other : List String} :
      option.takesList = true → IsAttachable text → IsAttachable otherText →
      SameButSeparators text otherText → Respelled given other →
      Respelled (((Form.letters switches).text option ++ text) :: given)
        (((Form.letters switches).text option ++ otherText) :: other)
  | behind {option : ValueOption} (form : Form) {text otherText : String} {given other : List String} :
      option.takesList = true → IsWord text → IsWord otherText → SameButSeparators text otherText →
      Respelled given other →
      Respelled (form.text option :: text :: given) (form.text option :: otherText :: other)

section
variable {option : ValueOption} {first second : Arguments} {given other : List String}

theorem readAll_dashes {dashes : String} (h : dashes.toList = ['-', '-']) (arguments : Arguments) :
    arguments.readAll [dashes] = arguments.settle ∧
      ∀ next rest, arguments.readAll (dashes :: next :: rest) =
        .error (.fault (.unexpected next)) := by
  constructor
  · rw [Arguments.readAll.eq_def]
    simp only [h]
  · intro next rest
    rw [Arguments.readAll.eq_def]
    simp only [h]

theorem readAll_behind (arguments : Arguments) (form : Form) {text : String} (h : IsWord text)
    (rest : List String) :
    arguments.readAll (form.text option :: text :: rest) =
      ((arguments.turnOnAll form.switches >>= fun on =>
        on.await option >>= fun read => read.readWord text) >>= fun read => read.readAll rest) := by
  obtain ⟨hdashes, hform⟩ := readOne_form arguments option form
  rw [readAll_cons hdashes, hform]
  simp only [bind_assoc]
  refine bind_congr fun on => bind_congr fun read => ?_
  obtain ⟨hword, htext⟩ := readOne_word read h
  rw [readAll_cons hword, htext]

/-- The word behind an option waits to become its value. -/
theorem await_readWord (arguments : Arguments) (text : String) :
    (arguments.await option >>= fun read => read.readWord text) =
      (arguments.settle >>= fun settled =>
        .ok { settled with waiting := some (option, some text) }) := by
  rw [Arguments.await, bind_assoc]
  exact bind_congr fun settled => rfl

theorem Alike.readBehind {text otherText : String} (h : Alike first second)
    (hsame : SameText option (some text) (some otherText)) :
    SameReading (first.await option >>= fun read => read.readWord text)
      (second.await option >>= fun read => read.readWord otherText) := by
  rw [await_readWord, await_readWord]
  exact h.settle.bind fun _ _ hsettled =>
    .ok ⟨hsettled.options, hsettled.switches, .some hsame⟩

/-- Whole command lines: step by step, what has been read stays alike. -/
theorem Alike.readAll (h : Alike first second) (hargs : Respelled given other) :
    SameReading (first.readAll given) (second.readAll other) := by
  induction hargs generalizing first second with
  | nil => exact h.settle
  | @same argument given other hrest ih =>
    by_cases hdashes : argument.toList = ['-', '-']
    · obtain ⟨hfirst, hfirstMore⟩ := readAll_dashes hdashes first
      obtain ⟨hsecond, hsecondMore⟩ := readAll_dashes hdashes second
      cases hrest with
      | nil =>
        rw [hfirst, hsecond]
        exact h.settle
      | same | equals | attached | behind =>
        -- Both are stopped by the next argument, which the message names as it is spelled.
        rw [hfirstMore, hsecondMore]
        exact .faults _ _
    · rw [readAll_cons hdashes, readAll_cons hdashes]
      exact (h.readOne argument).bind fun _ _ => ih
  | @equals option form text otherText given other hlist hseparators _ ih =>
    obtain ⟨hfirst, hgive⟩ := readOne_equals first option form text
    obtain ⟨hsecond, hother⟩ := readOne_equals second option form otherText
    have hvalue : SameText option (some text) (some otherText) := .list hlist hseparators
    rw [readAll_cons hfirst, readAll_cons hsecond, hgive, hother]
    exact ((h.turnOnAll _).bind fun _ _ hon => hon.give hvalue).bind fun _ _ => ih
  | @attached option switches text otherText given other hlist htext hotherText hseparators _ ih =>
    obtain ⟨hfirst, hgive⟩ := readOne_attached first option htext
    obtain ⟨hsecond, hother⟩ := readOne_attached second option hotherText
    have hvalue : SameText option (some text) (some otherText) := .list hlist hseparators
    rw [readAll_cons hfirst, readAll_cons hsecond, hgive, hother]
    exact ((h.turnOnAll _).bind fun _ _ hon => hon.give hvalue).bind fun _ _ => ih
  | @behind option form text otherText given other hlist htext hotherText hseparators _ ih =>
    have hvalue : SameText option (some text) (some otherText) := .list hlist hseparators
    rw [readAll_behind first form htext, readAll_behind second form hotherText]
    exact ((h.turnOnAll _).bind fun _ _ hon => hon.readBehind hvalue).bind fun _ _ => ih

end

/-! ## The law -/

theorem ne_empty_of_mem_list {arguments : Arguments} {option : ValueOption} {segment : String}
    (h : segment ∈ arguments.list option) : segment ≠ "" := by
  unfold Arguments.list at h
  cases hvalue : arguments.value? option with
  | none => simp [hvalue] at h
  | some text =>
    rw [hvalue] at h
    exact Settings.ne_empty_of_mem_splitList h

theorem text_ne_empty_of_mem_list {arguments : Arguments} {option : ValueOption} {path : Path}
    (h : path ∈ (arguments.list option).map Path.mk) : path.text ≠ "" := by
  obtain ⟨segment, hsegment, rfl⟩ := List.mem_map.1 h
  exact ne_empty_of_mem_list hsegment

theorem SameReading.run_eq {given other : List String} (tree : FileTree) (limit : Regex.Limit)
    (h : SameReading (Arguments.ofList given) (Arguments.ofList other)) :
    (run tree given limit).output = (run tree other limit).output ∧
      (run tree given limit).status = (run tree other limit).status := by
  unfold run
  generalize Arguments.ofList given = x at h
  generalize Arguments.ofList other = y at h
  cases h with
  | ok halike =>
    simp only [Outcome.ofArguments, halike.options.loadSettings_eq tree, and_self]
  | stopped => exact ⟨rfl, rfl⟩
  | faults => exact ⟨rfl, rfl⟩

theorem alike_empty : Alike .empty .empty :=
  ⟨fun _ => .same none, rfl, .none⟩

/-- Joined texts are split where they were joined, and only empty segments are lost. A list joined and
split again is the same list, the list of two texts with a separator between them is the lists of both,
and two texts have the same list exactly when they differ in nothing but separators. So the lists of a
command line hold no empty text, and neither its settings nor what the run prints, nor its status,
depend on separators that lead, trail or repeat one another. -/
theorem only_empty_segments_are_lost :
    (∀ texts : List String, (∀ text ∈ texts, ':' ∉ text.toList) →
      splitList (":".intercalate texts) = texts.filter (· ≠ "")) ∧
    (∀ text, (∀ segment ∈ splitList text, segment ≠ "" ∧ ':' ∉ segment.toList) ∧
      splitList (":".intercalate (splitList text)) = splitList text ∧
      ∀ other, splitList (text ++ ":" ++ other) = splitList text ++ splitList other) ∧
    (∀ text other, splitList text = splitList other ↔ SameButSeparators text other) ∧
    (∀ arguments : Arguments, (∀ pattern ∈ arguments.settings.patterns, pattern ≠ "") ∧
      (∀ path ∈ arguments.settings.applicationArtifacts, path.text ≠ "") ∧
      ∀ path ∈ arguments.settings.libraryArtifacts, path.text ≠ "") ∧
    (∀ first second, SameOptions first second → first.settings = second.settings ∧
      ∀ tree, loadSettings tree first = loadSettings tree second) ∧
    ∀ given other, Respelled given other →
      (∀ first, Arguments.ofList given = .ok first →
        ∃ second, Arguments.ofList other = .ok second ∧ first.settings = second.settings) ∧
      ∀ tree limit, (run tree given limit).output = (run tree other limit).output ∧
        (run tree given limit).status = (run tree other limit).status := by
  refine ⟨fun texts => Settings.splitList_join, fun text => ⟨?_, ?_, ?_⟩,
    fun text other => Settings.splitList_eq_iff, ?_, ?_, ?_⟩
  · intro segment h
    exact ⟨Settings.ne_empty_of_mem_splitList h, Settings.not_mem_of_mem_splitList h⟩
  · exact Settings.splitList_join_splitList text
  · exact Settings.splitList_append text
  · intro arguments
    exact ⟨fun _ => ne_empty_of_mem_list, fun _ => text_ne_empty_of_mem_list,
      fun _ => text_ne_empty_of_mem_list⟩
  · intro first second h
    exact ⟨h.settings_eq, h.loadSettings_eq⟩
  · intro given other h
    have hread : SameReading (Arguments.ofList given) (Arguments.ofList other) := alike_empty.readAll h
    refine ⟨?_, fun tree limit => hread.run_eq tree limit⟩
    intro first hfirst
    rw [hfirst] at hread
    generalize Arguments.ofList other = reading at hread
    cases hread with
    | @ok _ second halike => exact ⟨second, rfl, halike.options.settings_eq⟩

/-- Patterns and artifacts, with separators to spare. -/
def spacedLine : List String :=
  ["-vr", "::com.app.*:", "--application-jars=a.jar:::b.jar", "-llib.jar:"]

/-- The same patterns and artifacts. -/
def plainLine : List String :=
  ["-vr", "com.app.*", "--application-jars=a.jar:b.jar", "-llib.jar"]

/-- What such a command line is read as. -/
def lineArguments (patterns application library : String) : Arguments :=
  ⟨[(.patterns, patterns), (.applicationArtifacts, application), (.libraryArtifacts, library)],
   [.verbose], none⟩

theorem same_patterns : SameButSeparators "::com.app.*:" "com.app.*" :=
  Settings.splitList_eq_iff.1 (by decide +kernel)

theorem same_application : SameButSeparators "a.jar:::b.jar" "a.jar:b.jar" :=
  Settings.splitList_eq_iff.1 (by decide +kernel)

theorem same_library : SameButSeparators "lib.jar:" "lib.jar" :=
  .trailing "lib.jar"

theorem respelled_lines : Respelled spacedLine plainLine := by
  have hword : ∀ argument : String, argument.toList.head? ≠ some '-' → IsWord argument := by
    intro argument h c rest hlist
    exact h (by rw [hlist]; rfl)
  have hattach : ∀ rest, IsAttachable (String.ofList ('l' :: rest)) :=
    fun rest => ⟨'l', rest, String.toList_ofList, by decide⟩
  have hlibrary : Respelled ["-llib.jar:"] ["-llib.jar"] :=
    @Respelled.attached .libraryArtifacts [] "lib.jar:" "lib.jar" _ _ rfl (hattach "ib.jar:".toList)
      (hattach "ib.jar".toList) same_library .nil
  have happlication := @Respelled.equals .applicationArtifacts .name _ _ _ _ rfl same_application hlibrary
  exact @Respelled.behind .patterns (.letters [.verbose]) _ _ _ _ rfl (hword _ (by decide))
    (hword _ (by decide)) same_patterns happlication

theorem sameOptions_lines : SameOptions (lineArguments "::com.app.*:" "a.jar:::b.jar" "lib.jar:")
    (lineArguments "com.app.*" "a.jar:b.jar" "lib.jar") := by
  intro option
  cases option with
  | patterns => exact .list rfl same_patterns
  | applicationArtifacts => exact .list rfl same_application
  | libraryArtifacts => exact .list rfl same_library
  | _ => exact .same none

/-- The lists of both command lines are the same, and so is what a run with them prints. -/
theorem separators_to_spare_change_nothing :
    splitList (":".intercalate ["a", "", "b"]) = ["a", "b"] ∧
      splitList (":".intercalate (splitList ":a::b")) = ["a", "b"] ∧
      (lineArguments "::com.app.*:" "a.jar:::b.jar" "lib.jar:").settings =
        (lineArguments "com.app.*" "a.jar:b.jar" "lib.jar").settings ∧
      (∃ second, Arguments.ofList plainLine = .ok second ∧
        (lineArguments "::com.app.*:" "a.jar:::b.jar" "lib.jar:").settings = second.settings) ∧
      ∀ tree, (run tree spacedLine).output = (run tree plainLine).output := by
  obtain ⟨hjoin, htexts, -, -, hoptions, hlines⟩ := only_empty_segments_are_lost
  have hread : Arguments.ofList spacedLine =
      .ok (lineArguments "::com.app.*:" "a.jar:::b.jar" "lib.jar:") :=
    eq_ok_of_toOption (by decide +kernel)
  refine ⟨hjoin _ (by decide), ?_, (hoptions _ _ sameOptions_lines).1,
    (hlines _ _ respelled_lines).1 _ hread, fun tree => ((hlines _ _ respelled_lines).2 tree _).1⟩
  rw [(htexts ":a::b").2.1]
  decide +kernel

end AppBoundary.CommandLine
