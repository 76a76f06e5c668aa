-- Calls of an Android setup, one after the other, while the files change. Its
-- entry point and its index are kept apart: each call changes at most one of
-- them, and neither changes once it is there. So the answers about the index
-- come from the first archive that could be read, whatever else is asked for.
import AppBoundary.AndroidSetup
import AppBoundary.Proofs.Dex.Packages

namespace AppBoundary

/-! ## Entry points -/

/-- The outcomes of a number of requests for the entry point, and the provider afterwards. -/
def EntryPointProvider.answers (synthesizer : Synthesizer) (provider : EntryPointProvider) :
    Nat → List (Except Fault EntryPoint) × EntryPointProvider
  | 0 => ([], provider)
  | more + 1 =>
    let (first, after) := provider.get synthesizer
    let (others, last) := answers synthesizer after more
    (first :: others, last)

namespace AndroidSetup

/-! ## Calls and answers -/

/-- What a setup can be asked for. -/
inductive Request
  | entryPoint
  | index
  | classCount
  | methodCount
deriving DecidableEq

/-- A request, with the files as they are when it is made. -/
structure Call where
  request : Request
  files : FileTree

/-- The answer to a request. -/
inductive Answer
  | entryPoint (outcome : Except Fault EntryPoint)
  | index (outcome : Except Fault ClassIndex)
  | classCount (outcome : Except Fault Nat)
  | methodCount (outcome : Except Fault Nat)

/-- The request that an answer belongs to. -/
def Answer.request : Answer → Request
  | .entryPoint _ => .entryPoint
  | .index _ => .index
  | .classCount _ => .classCount
  | .methodCount _ => .methodCount

/-- The outcome of a request for the entry point. -/
def Answer.entryPoint? : Answer → Option (Except Fault EntryPoint)
  | .entryPoint outcome => some outcome
  | _ => none

/-- The answer to a request about the index, where this is what became of reading it. -/
def Answer.ofIndex (filter : Filter) (outcome : Except Fault ClassIndex) : Request → Option Answer
  | .entryPoint => none
  | .index => some (.index outcome)
  | .classCount => some (.classCount (outcome.map filter.countClasses))
  | .methodCount => some (.methodCount (outcome.map filter.countMethods))

/-- The answer to a call, and the setup afterwards. -/
def answer (synthesizer : Synthesizer) (setup : AndroidSetup) (call : Call) : Answer × AndroidSetup :=
  match call.request with
  | .entryPoint =>
    let (outcome, after) := setup.getEntryPoint synthesizer
    (.entryPoint outcome, after)
  | .index =>
    let (outcome, after) := setup.getIndex call.files
    (.index outcome, after)
  | .classCount =>
    let (outcome, after) := setup.countClasses call.files
    (.classCount outcome, after)
  | .methodCount =>
    let (outcome, after) := setup.countMethods call.files
    (.methodCount outcome, after)

/-- The answers to calls one after the other, and the setup afterwards. -/
def answers (synthesizer : Synthesizer) (setup : AndroidSetup) :
    List Call → List Answer × AndroidSetup
  | [] => ([], setup)
  | call :: rest =>
    let (first, after) := setup.answer synthesizer call
    let (others, last) := answers synthesizer after rest
    (first :: others, last)

/-- The index that a call can read from its files. -/
def Call.read? (package : Path) (call : Call) : Option ClassIndex :=
  if call.request = .entryPoint then none else (ClassIndex.openFile call.files package).toOption

/-- The index of a setup after some calls: the one that it has already, or the first one that can be
read. -/
def found? (setup : AndroidSetup) (calls : List Call) : Option ClassIndex :=
  setup.index.or (calls.findSome? (Call.read? setup.package))

variable {synthesizer : Synthesizer} {setup : AndroidSetup} {call : Call} {index : ClassIndex}

/-! ## One call -/

/-- What becomes of reading the index, if it has to be read. -/
def indexOutcome (setup : AndroidSetup) (files : FileTree) : Except Fault ClassIndex :=
  match setup.index with
  | some index => .ok index
  | none => ClassIndex.openFile files setup.package

/-- The index is kept when it could be read, and nothing else changes. -/
theorem getIndex_eq (setup : AndroidSetup) (files : FileTree) :
    setup.getIndex files =
      (setup.indexOutcome files, { setup with index := (setup.indexOutcome files).toOption }) := by
  unfold getIndex indexOutcome
  cases hindex : setup.index with
  | some index =>
    refine Prod.ext rfl ?_
    simp only [Except.toOption, ← hindex]
  | none =>
    simp only
    cases ClassIndex.openFile files setup.package with
    | ok index => rfl
    | error fault =>
      refine Prod.ext rfl ?_
      simp only [Except.toOption, ← hindex]

/-- A call for the entry point changes the entry point alone. -/
theorem answer_of_entryPoint (h : call.request = .entryPoint) :
    setup.answer synthesizer call =
      (.entryPoint (setup.entryPoint.get synthesizer).1,
        { setup with entryPoint := (setup.entryPoint.get synthesizer).2 }) := by
  unfold answer getEntryPoint
  rw [h]

/-- Every other call changes the index alone. -/
theorem answer_of_index (h : call.request ≠ .entryPoint) :
    some (setup.answer synthesizer call).1 =
        Answer.ofIndex setup.filter (setup.indexOutcome call.files) call.request ∧
      (setup.answer synthesizer call).2 =
        { setup with index := (setup.indexOutcome call.files).toOption } := by
  unfold answer countClasses countMethods
  cases hrequest : call.request with
  | entryPoint => exact absurd hrequest h
  | index => simp [getIndex_eq, Answer.ofIndex]
  | classCount => simp [getIndex_eq, Answer.ofIndex]
  | methodCount => simp [getIndex_eq, Answer.ofIndex]

theorem request_answer (synthesizer : Synthesizer) (setup : AndroidSetup) (call : Call) :
    (setup.answer synthesizer call).1.request = call.request := by
  unfold answer
  cases call.request <;> rfl

/-- The index afterwards is the one that was there, or else the one that the call could read. -/
theorem toOption_indexOutcome (setup : AndroidSetup) (files : FileTree) :
    (setup.indexOutcome files).toOption =
      setup.index.or (ClassIndex.openFile files setup.package).toOption := by
  unfold indexOutcome
  cases setup.index <;> rfl

/-! ## Many calls -/

/-- The calls for the entry point among some calls. -/
def entryPointCalls (calls : List Call) : Nat :=
  calls.countP (·.request = .entryPoint)

/-- The calls about the index among some calls. -/
def indexCalls (calls : List Call) : List Call :=
  calls.filter (·.request ≠ .entryPoint)

theorem answers_cons (synthesizer : Synthesizer) (setup : AndroidSetup) (call : Call)
    (rest : List Call) :
    setup.answers synthesizer (call :: rest) =
      ((setup.answer synthesizer call).1 ::
          ((setup.answer synthesizer call).2.answers synthesizer rest).1,
        ((setup.answer synthesizer call).2.answers synthesizer rest).2) := rfl

theorem answers_append (synthesizer : Synthesizer) (setup : AndroidSetup) (first second : List Call) :
    setup.answers synthesizer (first ++ second) =
      ((setup.answers synthesizer first).1 ++
          ((setup.answers synthesizer first).2.answers synthesizer second).1,
        ((setup.answers synthesizer first).2.answers synthesizer second).2) := by
  induction first generalizing setup with
  | nil => rfl
  | cons call rest ih =>
    rw [List.cons_append, answers_cons, answers_cons, ih]
    rfl

theorem request_answers (synthesizer : Synthesizer) (setup : AndroidSetup) (calls : List Call) :
    (setup.answers synthesizer calls).1.map Answer.request = calls.map Call.request := by
  induction calls generalizing setup with
  | nil => rfl
  | cons call rest ih => rw [answers_cons, List.map_cons, List.map_cons, request_answer, ih]

/-- One call finds what there is to find before the others do. -/
theorem found?_answer (synthesizer : Synthesizer) (setup : AndroidSetup) (call : Call)
    (rest : List Call) :
    (setup.answer synthesizer call).2.found? rest = setup.found? (call :: rest) := by
  unfold found?
  by_cases h : call.request = .entryPoint
  · rw [answer_of_entryPoint h, List.findSome?_cons, Call.read?, if_pos h]
  · rw [(answer_of_index h).2, List.findSome?_cons, Call.read?, if_neg h, toOption_indexOutcome,
      Option.or_assoc]
    cases (ClassIndex.openFile call.files setup.package).toOption <;> rfl

/-- After some calls the entry point is where its own calls have brought it, the index is the one
that was found, and the rest is as it was. -/
theorem setup_after_answers (synthesizer : Synthesizer) (setup : AndroidSetup) (calls : List Call) :
    (setup.answers synthesizer calls).2 =
      { setup with
        entryPoint := (setup.entryPoint.answers synthesizer (entryPointCalls calls)).2
        index := setup.found? calls } := by
  induction calls generalizing setup with
  | nil =>
    unfold found?
    simp [answers, entryPointCalls, EntryPointProvider.answers]
  | cons call rest ih =>
    rw [answers_cons]
    simp only
    rw [ih, found?_answer]
    by_cases h : call.request = .entryPoint
    · rw [answer_of_entryPoint h, entryPointCalls, entryPointCalls,
        List.countP_cons_of_pos (by simpa using h)]
      rfl
    · rw [(answer_of_index h).2, entryPointCalls, entryPointCalls,
        List.countP_cons_of_neg (by simpa using h)]

/-- The calls for the entry point are answered as if there were no others. -/
theorem entryPoints_of_answers (synthesizer : Synthesizer) (setup : AndroidSetup)
    (calls : List Call) :
    (setup.answers synthesizer calls).1.filterMap Answer.entryPoint? =
      (setup.entryPoint.answers synthesizer (entryPointCalls calls)).1 := by
  induction calls generalizing setup with
  | nil => rfl
  | cons call rest ih =>
    rw [answers_cons]
    simp only
    by_cases h : call.request = .entryPoint
    · simp only [answer_of_entryPoint h, List.filterMap_cons, Answer.entryPoint?]
      rw [ih, entryPointCalls, entryPointCalls, List.countP_cons_of_pos (by simpa using h)]
      rfl
    · have hnone : (setup.answer synthesizer call).1.entryPoint? = none := by
        have hrequest := request_answer synthesizer setup call
        cases hanswer : (setup.answer synthesizer call).1 with
        | entryPoint => exact absurd (by rw [← hrequest, hanswer]; rfl) h
        | _ => rfl
      rw [List.filterMap_cons_none hnone, ih, entryPointCalls, entryPointCalls,
        List.countP_cons_of_neg (by simpa using h), (answer_of_index h).2]

/-- The entry point plays no part in the answers about the index. -/
theorem answers_of_index_calls (synthesizer : Synthesizer) (setup : AndroidSetup)
    (provider : EntryPointProvider) {calls : List Call}
    (h : ∀ call ∈ calls, call.request ≠ .entryPoint) :
    ({ setup with entryPoint := provider }.answers synthesizer calls).1 =
      (setup.answers synthesizer calls).1 := by
  induction calls generalizing setup with
  | nil => rfl
  | cons call rest ih =>
    obtain ⟨hcall, hrest⟩ := List.forall_mem_cons.1 h
    have hone := @answer_of_index synthesizer setup call hcall
    have hother := @answer_of_index synthesizer { setup with entryPoint := provider } call hcall
    have hsame : ({ setup with entryPoint := provider }.answer synthesizer call).1 =
        (setup.answer synthesizer call).1 := Option.some.inj (hother.1.trans hone.1.symm)
    rw [answers_cons, answers_cons, hsame, hone.2, hother.2]
    exact congrArg (List.cons _) (ih { setup with index := (setup.indexOutcome call.files).toOption } hrest)

/-- The calls about the index are answered as if there were no others. -/
theorem indexAnswers_of_answers (synthesizer : Synthesizer) (setup : AndroidSetup)
    (calls : List Call) :
    (setup.answers synthesizer calls).1.filter (·.request ≠ .entryPoint) =
      (setup.answers synthesizer (indexCalls calls)).1 := by
  induction calls generalizing setup with
  | nil => rfl
  | cons call rest ih =>
    have hrequest := request_answer synthesizer setup call
    rw [answers_cons]
    by_cases h : call.request = .entryPoint
    · rw [List.filter_cons_of_neg (by simp [hrequest, h]), ih, indexCalls, indexCalls,
        List.filter_cons_of_neg (by simp [h]), answer_of_entryPoint h]
      refine answers_of_index_calls synthesizer setup _ fun other hother => ?_
      simpa using (List.mem_filter.1 hother).2
    · rw [List.filter_cons_of_pos (by simp [hrequest, h]), ih, indexCalls, indexCalls,
        List.filter_cons_of_pos (by simp [h]), answers_cons]

/-- Once the index is there, the files play no part in any answer. -/
theorem answers_of_same_requests (hindex : setup.index = some index) {calls others : List Call}
    (h : calls.map Call.request = others.map Call.request) :
    setup.answers synthesizer calls = setup.answers synthesizer others := by
  induction calls generalizing setup others with
  | nil =>
    rw [List.map_nil, eq_comm, List.map_eq_nil_iff] at h
    rw [h]
  | cons call rest ih =>
    obtain ⟨other, more, rfl, hother, hmore⟩ := List.map_eq_cons_iff.1 h.symm
    have hsame : setup.answer synthesizer call = setup.answer synthesizer other := by
      unfold answer countClasses countMethods
      rw [hother]
      simp only [getIndex_eq, indexOutcome, hindex]
    have hkept : (setup.answer synthesizer other).2.index = some index := by
      by_cases hrequest : other.request = .entryPoint
      · rw [answer_of_entryPoint hrequest]
        exact hindex
      · rw [(answer_of_index hrequest).2, toOption_indexOutcome, hindex]
        rfl
    rw [answers_cons, answers_cons, hsame, ih hkept hmore.symm]

/-! ## One call among many -/

/-- What becomes of the index at one call, after others. -/
theorem indexOutcome_after_answers (synthesizer : Synthesizer) (setup : AndroidSetup)
    (before : List Call) (files : FileTree) :
    (setup.answers synthesizer before).2.indexOutcome files =
      match setup.found? before with
      | some index => .ok index
      | none => ClassIndex.openFile files setup.package := by
  rw [setup_after_answers]
  rfl

theorem answer_at (synthesizer : Synthesizer) (setup : AndroidSetup) (before : List Call)
    (call : Call) (after : List Call) :
    (setup.answers synthesizer (before ++ call :: after)).1[before.length]? =
      some ((setup.answers synthesizer before).2.answer synthesizer call).1 := by
  have hlength : (setup.answers synthesizer before).1.length = before.length := by
    rw [← List.length_map Answer.request, request_answers, List.length_map]
  rw [answers_append, answers_cons, ← hlength, List.getElem?_append_right (Nat.le_refl _),
    Nat.sub_self]
  rfl

/-- The answer about the index at one call of many comes from what became of the index there. -/
theorem indexAnswer_at (before : List Call) (after : List Call)
    (h : call.request ≠ .entryPoint) :
    (setup.answers synthesizer (before ++ call :: after)).1[before.length]? =
      Answer.ofIndex setup.filter
        ((setup.answers synthesizer before).2.indexOutcome call.files) call.request := by
  rw [answer_at, (answer_of_index h).1, setup_after_answers]

/-! ## The law -/

/-- How the two things that a setup keeps go through some calls. -/
structure KeptApart (synthesizer : Synthesizer) (setup : AndroidSetup) (calls : List Call) :
    Prop where
  /-- Every call gets an answer of its kind. -/
  inKind : (setup.answers synthesizer calls).1.map Answer.request = calls.map Call.request
  /-- The entry points are those that the provider gives when nothing else is asked for. -/
  entryPoints : (setup.answers synthesizer calls).1.filterMap Answer.entryPoint? =
    (setup.entryPoint.answers synthesizer (entryPointCalls calls)).1
  /-- The other answers are those that are given when no entry point is asked for. -/
  indexAnswers : (setup.answers synthesizer calls).1.filter (·.request ≠ .entryPoint) =
    (setup.answers synthesizer (indexCalls calls)).1
  /-- Once the entry point has been built, every call for it gives that one and leaves the setup as it
  is. -/
  built : ∀ before call after entryPoint, calls = before ++ call :: after →
    call.request = .entryPoint →
    (setup.answers synthesizer before).2.entryPoint.cache = some entryPoint →
      (setup.answers synthesizer calls).1[before.length]? = some (.entryPoint (.ok entryPoint)) ∧
      ((setup.answers synthesizer before).2.answer synthesizer call).2 =
        (setup.answers synthesizer before).2
  /-- Until the index has been read, a call about it reads its own files, and one that fails leaves
  the setup as it was. -/
  unread : ∀ before call after, calls = before ++ call :: after → call.request ≠ .entryPoint →
    setup.found? before = none →
      (setup.answers synthesizer calls).1[before.length]? =
        Answer.ofIndex setup.filter (ClassIndex.openFile call.files setup.package) call.request ∧
      ∀ fault, ClassIndex.openFile call.files setup.package = .error fault →
        ((setup.answers synthesizer before).2.answer synthesizer call).2 =
          (setup.answers synthesizer before).2
  /-- Once the index has been read, every call about it uses that index and leaves the setup as it
  is. -/
  read : ∀ before call after index, calls = before ++ call :: after →
    call.request ≠ .entryPoint → setup.found? before = some index →
      (setup.answers synthesizer calls).1[before.length]? =
        Answer.ofIndex setup.filter (.ok index) call.request ∧
      ((setup.answers synthesizer before).2.answer synthesizer call).2 =
        (setup.answers synthesizer before).2
  /-- From then on the files play no part. -/
  blind : ∀ before after others, calls = before ++ after → setup.found? before ≠ none →
    after.map Call.request = others.map Call.request →
      setup.answers synthesizer (before ++ others) = setup.answers synthesizer calls
  /-- What was found about the platform and the package stays. -/
  apiLevel : (setup.answers synthesizer calls).2.apiLevel = setup.apiLevel
  package : (setup.answers synthesizer calls).2.package = setup.package
  platformDirectory :
    (setup.answers synthesizer calls).2.platformDirectory = setup.platformDirectory

/-- Whatever a setup is asked for, in whatever order, and however the files change meanwhile: the entry
point and the index do not interfere, the index is read from the first package that can be read, and
all later answers about it come from that one index. -/
theorem the_entry_point_and_the_index_are_kept_apart (synthesizer : Synthesizer)
    (setup : AndroidSetup) (calls : List Call) : KeptApart synthesizer setup calls where
  inKind := request_answers synthesizer setup calls
  entryPoints := entryPoints_of_answers synthesizer setup calls
  indexAnswers := indexAnswers_of_answers synthesizer setup calls
  built := by
    rintro before call after entryPoint rfl hcall hcache
    have hget : (setup.answers synthesizer before).2.entryPoint.get synthesizer =
        (.ok entryPoint, (setup.answers synthesizer before).2.entryPoint) := by
      unfold EntryPointProvider.get
      rw [hcache]
    rw [answer_at, answer_of_entryPoint hcall, hget]
    exact ⟨rfl, rfl⟩
  unread := by
    rintro before call after rfl hcall hfound
    have houtcome := indexOutcome_after_answers synthesizer setup before call.files
    rw [hfound] at houtcome
    refine ⟨by rw [indexAnswer_at before after hcall, houtcome], fun fault hfault => ?_⟩
    rw [(answer_of_index hcall).2, houtcome, hfault, setup_after_answers, hfound]
    rfl
  read := by
    rintro before call after index rfl hcall hfound
    have houtcome := indexOutcome_after_answers synthesizer setup before call.files
    rw [hfound] at houtcome
    refine ⟨by rw [indexAnswer_at before after hcall, houtcome], ?_⟩
    rw [(answer_of_index hcall).2, houtcome, setup_after_answers, hfound]
    rfl
  blind := by
    rintro before after others rfl hfound hrequests
    obtain ⟨index, hindex⟩ := Option.ne_none_iff_exists'.1 hfound
    have hread : (setup.answers synthesizer before).2.index = some index := by
      rw [setup_after_answers]
      exact hindex
    rw [answers_append, answers_append, answers_of_same_requests hread hrequests]
  apiLevel := by rw [setup_after_answers]
  package := by rw [setup_after_answers]
  platformDirectory := by rw [setup_after_answers]

/-- A setup that has neither its entry point nor its index. Its package is a bare file of compiled
code. -/
def freshSetup : AndroidSetup :=
  ⟨33, ⟨"classes.dex"⟩, ⟨"platforms"⟩, .new ⟨"platforms"⟩ ⟨"classes.dex"⟩, ⟨"(?:a)", .char 'a'⟩, none⟩

/-- Files with a package that is too short. -/
def brokenPackage : FileTree :=
  FileTree.empty.write ⟨"classes.dex"⟩ ⟨#[0x64, 0x65]⟩

/-- Files with a package that lists the class `LB;`. -/
def soundPackage : FileTree :=
  FileTree.empty.write ⟨"classes.dex"⟩ ClassIndex.plainFile

theorem openFile_brokenPackage :
    ClassIndex.openFile brokenPackage ⟨"classes.dex"⟩ =
      .error (.malformedIndex ⟨"classes.dex"⟩ .noHeader) := by
  rfl

theorem openFile_soundPackage :
    ClassIndex.openFile soundPackage ⟨"classes.dex"⟩ = .ok ⟨["LB;"], []⟩ := by
  have hpackage : Path.isPackage ⟨"classes.dex"⟩ = false := by decide
  have hbytes : ClassIndex.fileBytes soundPackage ⟨"classes.dex"⟩ = .ok ClassIndex.plainFile := rfl
  simp only [ClassIndex.openFile, hpackage, Bool.false_eq_true, if_false, hbytes, bind_eq_ok_iff,
    Except.ok.injEq, exists_eq_left']
  exact ClassIndex.ofBytes_plainFile _

/-- A synthesizer that always fails. -/
def noSynthesizer : Synthesizer :=
  fun _ _ _ => .error (.entrySynthesis "none")

/-- Calls while the package is missing, broken, sound and broken again. -/
def callsOverChanges : List Call :=
  [⟨.classCount, .empty⟩, ⟨.entryPoint, .empty⟩, ⟨.index, brokenPackage⟩,
    ⟨.classCount, soundPackage⟩, ⟨.index, brokenPackage⟩]

/-- A broken package is reported and not kept, behind a missing one and a failed entry point. Once a
call could read the package, its index is given although a broken package has taken its place. -/
theorem a_broken_package_is_reported_until_the_index_is_there :
    (freshSetup.answers noSynthesizer callsOverChanges).1[2]? =
        some (.index (.error (.malformedIndex ⟨"classes.dex"⟩ .noHeader))) ∧
      (freshSetup.answers noSynthesizer callsOverChanges).1[4]? =
        some (.index (.ok ⟨["LB;"], []⟩)) := by
  have hkept :=
    the_entry_point_and_the_index_are_kept_apart noSynthesizer freshSetup callsOverChanges
  have hmissing : ClassIndex.openFile .empty ⟨"classes.dex"⟩ =
      .error (.read ⟨"classes.dex"⟩ .notFound) := rfl
  have hunread : freshSetup.found? (callsOverChanges.take 2) = none := by
    simp [found?, freshSetup, callsOverChanges, Call.read?, hmissing, Except.toOption]
  have hread : freshSetup.found? (callsOverChanges.take 4) = some ⟨["LB;"], []⟩ := by
    simp [found?, freshSetup, callsOverChanges, Call.read?, hmissing, openFile_brokenPackage,
      openFile_soundPackage, Except.toOption]
  constructor
  · rw [← openFile_brokenPackage]
    exact (hkept.unread _ ⟨.index, brokenPackage⟩ _ rfl (by decide) hunread).1
  · exact (hkept.read _ ⟨.index, brokenPackage⟩ [] _ rfl (by decide) hread).1

end AndroidSetup

end AppBoundary
