-- A provider of an entry point, asked again and again. A request calls the
-- synthesizer until a call succeeds and never afterwards. What holds after each
-- request is kept by the next one, so it holds after any number of them.
import AppBoundary.EntryPoint

namespace AppBoundary.EntryPointProvider

/-! ## Questions and replies -/

/-- What a provider can be asked. -/
inductive Question
  /-- The entry point, built if need be. -/
  | entryPoint
  /-- Whether it has been built. -/
  | isSynthesized
deriving DecidableEq

/-- The reply to a question. -/
inductive Reply
  | entryPoint (outcome : Except Fault EntryPoint)
  | isSynthesized (built : Bool)

/-- The reply to one question, and the provider afterwards. -/
def reply (synthesizer : Synthesizer) (provider : EntryPointProvider) :
    Question → Reply × EntryPointProvider
  | .entryPoint =>
    let (outcome, after) := provider.get synthesizer
    (.entryPoint outcome, after)
  | .isSynthesized => (.isSynthesized provider.isSynthesized, provider)

/-- The replies to questions one after the other, and the provider afterwards. -/
def replies (synthesizer : Synthesizer) (provider : EntryPointProvider) :
    List Question → List Reply × EntryPointProvider
  | [] => ([], provider)
  | question :: rest =>
    let (first, after) := provider.reply synthesizer question
    let (others, last) := replies synthesizer after rest
    (first :: others, last)

/-- The number of requests for the entry point among some questions. -/
def requests (questions : List Question) : Nat :=
  questions.count .entryPoint

/-! ## Outcomes -/

/-- The outcomes of the calls of a synthesizer for a provider, in their order. -/
def outcomes (synthesizer : Synthesizer) (provider : EntryPointProvider) :
    Nat → Except Fault EntryPoint :=
  fun i => synthesizer i provider.platformDirectory provider.artifact

/-- The first `count` outcomes are failures. -/
def AllFail (outcomes : Nat → Except Fault EntryPoint) (count : Nat) : Prop :=
  ∀ i < count, ∃ fault, outcomes i = .error fault

/-- The first success is the outcome of number `n`. -/
structure FirstSuccess (outcomes : Nat → Except Fault EntryPoint) (n : Nat)
    (entryPoint : EntryPoint) : Prop where
  success : outcomes n = .ok entryPoint
  failures : AllFail outcomes n

variable {synthesizer : Synthesizer} {provider : EntryPointProvider} {count n : Nat}
  {entryPoint : EntryPoint} {sequence : Nat → Except Fault EntryPoint}

theorem AllFail.succ (h : AllFail sequence count) {fault : Fault}
    (hlast : sequence count = .error fault) : AllFail sequence (count + 1) := by
  intro i hi
  rcases Nat.lt_succ_iff_lt_or_eq.1 hi with hlt | rfl
  · exact h i hlt
  · exact ⟨fault, hlast⟩

theorem FirstSuccess.not_allFail (h : FirstSuccess sequence n entryPoint) (hn : n < count) :
    ¬ AllFail sequence count := by
  intro hfail
  obtain ⟨fault, hfault⟩ := hfail n hn
  rw [h.success] at hfault
  cases hfault

theorem FirstSuccess.unique {m : Nat} {other : EntryPoint}
    (h : FirstSuccess sequence n entryPoint) (hother : FirstSuccess sequence m other) :
    n = m ∧ entryPoint = other := by
  have hplace : n = m := by
    rcases Nat.lt_trichotomy n m with hlt | heq | hgt
    · exact absurd hother.failures (h.not_allFail hlt)
    · exact heq
    · exact absurd h.failures (hother.not_allFail hgt)
  subst hplace
  have hsame := h.success.symm.trans hother.success
  exact ⟨rfl, Except.ok.inj hsame⟩

/-! ## One request -/

theorem get_of_cached (h : provider.cache = some entryPoint) :
    provider.get synthesizer = (.ok entryPoint, provider) := by
  rw [get, h]

theorem get_of_not_cached (h : provider.cache = none) :
    provider.get synthesizer =
      (provider.outcomes synthesizer provider.calls,
        { provider with
          cache := (provider.outcomes synthesizer provider.calls).toOption
          calls := provider.calls + 1 }) := by
  rw [get, h]
  rfl

/-- A request that fails leaves the cache as it was. -/
theorem cache_get_of_error {fault : Fault} (h : (provider.get synthesizer).1 = .error fault) :
    (provider.get synthesizer).2.cache = provider.cache := by
  cases hcache : provider.cache with
  | some entryPoint =>
    rw [get_of_cached hcache] at h
    cases h
  | none =>
    rw [get_of_not_cached hcache] at h ⊢
    simp only at h ⊢
    rw [h]
    rfl

theorem outcomes_get (synthesizer other : Synthesizer) (provider : EntryPointProvider) :
    (provider.get synthesizer).2.outcomes other = provider.outcomes other := by
  cases hcache : provider.cache with
  | some entryPoint => rw [get_of_cached hcache]
  | none =>
    rw [get_of_not_cached hcache]
    rfl

/-! ## After some requests -/

/-- Where a provider stands after `count` requests. -/
inductive Stands (synthesizer : Synthesizer) (provider : EntryPointProvider) (count : Nat) : Prop
  /-- Each request has called the synthesizer, and each call has failed. -/
  | waiting : AllFail (provider.outcomes synthesizer) count → provider.cache = none →
      provider.calls = count → Stands synthesizer provider count
  /-- The call of number `n` was the first to succeed and the last to be made. -/
  | built {n : Nat} {entryPoint : EntryPoint} :
      FirstSuccess (provider.outcomes synthesizer) n entryPoint → n < count →
      provider.cache = some entryPoint → provider.calls = n + 1 →
      Stands synthesizer provider count

theorem Stands.get (h : Stands synthesizer provider count) :
    Stands synthesizer (provider.get synthesizer).2 (count + 1) := by
  have hsame := outcomes_get synthesizer synthesizer provider
  cases h with
  | built hfirst hn hcache hcalls =>
    rw [get_of_cached hcache]
    exact .built hfirst (Nat.lt_succ_of_lt hn) hcache hcalls
  | waiting hfail hcache hcalls =>
    rw [get_of_not_cached hcache] at hsame ⊢
    simp only [hcalls] at hsame ⊢
    cases houtcome : provider.outcomes synthesizer count with
    | ok entryPoint =>
      rw [houtcome] at hsame
      have hfirst : FirstSuccess (provider.outcomes synthesizer) count entryPoint :=
        ⟨houtcome, hfail⟩
      rw [← hsame] at hfirst
      exact .built hfirst (Nat.lt_succ_self _) rfl rfl
    | error fault =>
      rw [houtcome] at hsame
      refine .waiting ?_ rfl rfl
      rw [hsame]
      exact hfail.succ houtcome

theorem Stands.get_of_allFail (h : Stands synthesizer provider count)
    (hfail : AllFail (provider.outcomes synthesizer) count) :
    provider.get synthesizer =
      (provider.outcomes synthesizer count,
        { provider with
          cache := (provider.outcomes synthesizer count).toOption
          calls := count + 1 }) := by
  cases h with
  | built hfirst hn _ _ => exact absurd hfail (hfirst.not_allFail hn)
  | waiting _ hcache hcalls => rw [get_of_not_cached hcache, hcalls]

theorem Stands.get_of_firstSuccess (h : Stands synthesizer provider count)
    (hfirst : FirstSuccess (provider.outcomes synthesizer) n entryPoint) (hn : n < count) :
    provider.get synthesizer = (.ok entryPoint, provider) := by
  cases h with
  | waiting hfail _ _ => exact absurd hfail (hfirst.not_allFail hn)
  | built hother _ hcache _ =>
    obtain ⟨-, rfl⟩ := hfirst.unique hother
    exact get_of_cached hcache

theorem Stands.calls_of_allFail (h : Stands synthesizer provider count)
    (hfail : AllFail (provider.outcomes synthesizer) count) : provider.calls = count := by
  cases h with
  | built hfirst hn _ _ => exact absurd hfail (hfirst.not_allFail hn)
  | waiting _ _ hcalls => exact hcalls

theorem Stands.calls_of_firstSuccess (h : Stands synthesizer provider count)
    (hfirst : FirstSuccess (provider.outcomes synthesizer) n entryPoint) :
    provider.calls = min count (n + 1) := by
  cases h with
  | waiting hfail _ hcalls =>
    have hn : count ≤ n := Nat.not_lt.1 fun hlt => hfirst.not_allFail hlt hfail
    omega
  | built hother hn _ hcalls =>
    obtain ⟨rfl, -⟩ := hfirst.unique hother
    omega

theorem Stands.isSynthesized_iff (h : Stands synthesizer provider count) :
    provider.isSynthesized = true ↔
      ∃ n entryPoint, FirstSuccess (provider.outcomes synthesizer) n entryPoint ∧ n < count := by
  cases h with
  | waiting hfail hcache _ =>
    refine iff_of_false (by simp [isSynthesized, hcache]) ?_
    rintro ⟨n, entryPoint, hfirst, hn⟩
    exact hfirst.not_allFail hn hfail
  | built hfirst hn hcache _ =>
    exact iff_of_true (by simp [isSynthesized, hcache]) ⟨_, _, hfirst, hn⟩

/-! ## Any number of questions -/

theorem replies_cons (synthesizer : Synthesizer) (provider : EntryPointProvider)
    (question : Question) (rest : List Question) :
    provider.replies synthesizer (question :: rest) =
      ((provider.reply synthesizer question).1 ::
          ((provider.reply synthesizer question).2.replies synthesizer rest).1,
        ((provider.reply synthesizer question).2.replies synthesizer rest).2) := rfl

theorem outcomes_reply (synthesizer other : Synthesizer) (provider : EntryPointProvider)
    (question : Question) :
    (provider.reply synthesizer question).2.outcomes other = provider.outcomes other := by
  cases question with
  | entryPoint => exact outcomes_get synthesizer other provider
  | isSynthesized => rfl

theorem outcomes_replies (synthesizer other : Synthesizer) (provider : EntryPointProvider)
    (questions : List Question) :
    (provider.replies synthesizer questions).2.outcomes other = provider.outcomes other := by
  induction questions generalizing provider with
  | nil => rfl
  | cons question rest ih =>
    rw [replies_cons]
    exact (ih _).trans (outcomes_reply synthesizer other provider question)

theorem Stands.replies (h : Stands synthesizer provider count) (questions : List Question) :
    Stands synthesizer (provider.replies synthesizer questions).2 (count + requests questions) := by
  induction questions generalizing provider count with
  | nil => exact h
  | cons question rest ih =>
    rw [replies_cons]
    cases question with
    | entryPoint =>
      have hnumber : count + requests (.entryPoint :: rest) = count + 1 + requests rest := by
        rw [requests, List.count_cons_self, ← requests]
        omega
      rw [hnumber]
      exact ih h.get
    | isSynthesized =>
      have hnumber : requests (.isSynthesized :: rest) = requests rest :=
        List.count_cons_of_ne (by decide)
      rw [hnumber]
      exact ih h

/-- A new provider that has been asked some questions stands where the requests among them have
brought it. -/
theorem stands_after (synthesizer : Synthesizer) (platformDirectory artifact : Path)
    (questions : List Question) :
    Stands synthesizer ((new platformDirectory artifact).replies synthesizer questions).2
      (requests questions) := by
  have hnew : Stands synthesizer (new platformDirectory artifact) 0 :=
    .waiting (fun _ hi => absurd hi (Nat.not_lt_zero _)) rfl rfl
  have h := hnew.replies questions
  rwa [Nat.zero_add] at h

theorem replies_append (synthesizer : Synthesizer) (provider : EntryPointProvider)
    (first second : List Question) :
    provider.replies synthesizer (first ++ second) =
      ((provider.replies synthesizer first).1 ++
          ((provider.replies synthesizer first).2.replies synthesizer second).1,
        ((provider.replies synthesizer first).2.replies synthesizer second).2) := by
  induction first generalizing provider with
  | nil => rfl
  | cons question rest ih =>
    rw [List.cons_append, replies_cons, replies_cons, ih]
    rfl

theorem length_replies (synthesizer : Synthesizer) (provider : EntryPointProvider)
    (questions : List Question) :
    (provider.replies synthesizer questions).1.length = questions.length := by
  induction questions generalizing provider with
  | nil => rfl
  | cons question rest ih => rw [replies_cons, List.length_cons, List.length_cons, ih]

theorem replies_snoc (synthesizer : Synthesizer) (provider : EntryPointProvider)
    (before : List Question) (question : Question) :
    (provider.replies synthesizer (before ++ [question])).2 =
      ((provider.replies synthesizer before).2.reply synthesizer question).2 := by
  rw [replies_append, replies_cons]
  rfl

/-- The reply to one question among others comes from the provider that the ones before it leave. -/
theorem reply_at (synthesizer : Synthesizer) (provider : EntryPointProvider)
    (before : List Question) (question : Question) (after : List Question) :
    (provider.replies synthesizer (before ++ question :: after)).1[before.length]? =
      some ((provider.replies synthesizer before).2.reply synthesizer question).1 := by
  rw [replies_append, replies_cons, ← length_replies synthesizer provider before,
    List.getElem?_append_right (Nat.le_refl _), Nat.sub_self]
  rfl

/-- Outcomes behind the first success play no part. -/
theorem replies_congr {other : Synthesizer}
    (hsuccess : provider.outcomes synthesizer n = .ok entryPoint)
    (hsame : ∀ i ≤ n, provider.outcomes other i = provider.outcomes synthesizer i)
    (hstate : provider.cache = none → provider.calls ≤ n) (questions : List Question) :
    provider.replies other questions = provider.replies synthesizer questions := by
  induction questions generalizing provider with
  | nil => rfl
  | cons question rest ih =>
    have hreply : provider.reply other question = provider.reply synthesizer question := by
      cases question with
      | isSynthesized => rfl
      | entryPoint =>
        cases hcache : provider.cache with
        | some _ => rw [reply, reply, get_of_cached hcache, get_of_cached hcache]
        | none =>
          rw [reply, reply, get_of_not_cached hcache, get_of_not_cached hcache,
            hsame _ (hstate hcache)]
    rw [replies_cons, replies_cons, hreply, ih]
    · rwa [outcomes_reply]
    · intro i hi
      rw [outcomes_reply, outcomes_reply, hsame i hi]
    · cases question with
      | isSynthesized => exact hstate
      | entryPoint =>
        cases hcache : provider.cache with
        | some _ =>
          rw [reply, get_of_cached hcache]
          exact hstate
        | none =>
          -- The call that succeeds fills the cache, an earlier one leaves room for the next.
          rw [reply, get_of_not_cached hcache]
          intro hempty
          have hne : provider.calls ≠ n := by
            rintro rfl
            simp only [hsuccess] at hempty
            cases hempty
          have := hstate hcache
          simp only
          omega

/-! ## The law -/

/-- How a fresh provider replies to some questions, for the outcomes that its synthesizer has for
it. -/
structure BuiltOnce (synthesizer : Synthesizer) (fresh : EntryPointProvider)
    (questions : List Question) : Prop where
  /-- Before the first success, a request calls the synthesizer once and gives its outcome as it
  is. -/
  tried : ∀ before after, questions = before ++ .entryPoint :: after →
    AllFail (fresh.outcomes synthesizer) (requests before) →
      (fresh.replies synthesizer questions).1[before.length]? =
        some (.entryPoint (fresh.outcomes synthesizer (requests before))) ∧
      (fresh.replies synthesizer before).2.calls = requests before ∧
      (fresh.replies synthesizer (before ++ [.entryPoint])).2.calls = requests before + 1
  /-- After it, a request gives that success and changes nothing, the number of calls included. -/
  kept : ∀ before after n entryPoint, questions = before ++ .entryPoint :: after →
    FirstSuccess (fresh.outcomes synthesizer) n entryPoint → n < requests before →
      (fresh.replies synthesizer questions).1[before.length]? =
        some (.entryPoint (.ok entryPoint)) ∧
      (fresh.replies synthesizer (before ++ [.entryPoint])).2 =
        (fresh.replies synthesizer before).2
  /-- Nor do the outcomes of any later calls matter. -/
  blind : ∀ n entryPoint other, FirstSuccess (fresh.outcomes synthesizer) n entryPoint →
    (∀ i ≤ n, fresh.outcomes other i = fresh.outcomes synthesizer i) →
      fresh.replies other questions = fresh.replies synthesizer questions
  /-- The calls are as many as the requests or as the place of the first success, whichever is
  less. -/
  calls : ∀ n entryPoint, FirstSuccess (fresh.outcomes synthesizer) n entryPoint →
    (fresh.replies synthesizer questions).2.calls = min (requests questions) (n + 1)
  /-- Without a success there are as many calls as requests. -/
  callsOfFailures : AllFail (fresh.outcomes synthesizer) (requests questions) →
    (fresh.replies synthesizer questions).2.calls = requests questions
  /-- The provider says that the entry point is built exactly when a request before has succeeded, and
  does not change by saying so. -/
  asked : ∀ before after, questions = before ++ .isSynthesized :: after →
    ∃ built, (fresh.replies synthesizer questions).1[before.length]? =
        some (.isSynthesized built) ∧
      (built = true ↔ ∃ n entryPoint, FirstSuccess (fresh.outcomes synthesizer) n entryPoint ∧
        n < requests before) ∧
      (fresh.replies synthesizer (before ++ [.isSynthesized])).2 =
        (fresh.replies synthesizer before).2
  /-- A request that fails leaves the cache as it was. -/
  failed : ∀ before after fault, questions = before ++ .entryPoint :: after →
    (fresh.replies synthesizer questions).1[before.length]? = some (.entryPoint (.error fault)) →
      (fresh.replies synthesizer (before ++ [.entryPoint])).2.cache =
        (fresh.replies synthesizer before).2.cache

/-- An entry point is built at most once. Whatever a new provider is asked, in whatever order, and
whichever calls of the synthesizer fail: each request up to the first success makes one call and gives
its outcome, and that success is the last call and the answer to every request from then on. -/
theorem an_entry_point_is_built_at_most_once (synthesizer : Synthesizer)
    (platformDirectory artifact : Path) (questions : List Question) :
    BuiltOnce synthesizer (new platformDirectory artifact) questions where
  tried := by
    rintro before after rfl hfail
    have h := stands_after synthesizer platformDirectory artifact before
    rw [← outcomes_replies synthesizer synthesizer _ before] at hfail ⊢
    rw [reply_at, replies_snoc, reply, h.get_of_allFail hfail]
    exact ⟨rfl, h.calls_of_allFail hfail, rfl⟩
  kept := by
    rintro before after n entryPoint rfl hfirst hn
    have h := stands_after synthesizer platformDirectory artifact before
    rw [← outcomes_replies synthesizer synthesizer _ before] at hfirst
    rw [reply_at, replies_snoc, reply, h.get_of_firstSuccess hfirst hn]
    exact ⟨rfl, rfl⟩
  blind := fun n entryPoint other hfirst hagree =>
    replies_congr hfirst.success hagree (fun _ => Nat.zero_le n) questions
  calls := by
    intro n entryPoint hfirst
    rw [← outcomes_replies synthesizer synthesizer _ questions] at hfirst
    exact (stands_after synthesizer platformDirectory artifact questions).calls_of_firstSuccess hfirst
  callsOfFailures := by
    intro hfail
    rw [← outcomes_replies synthesizer synthesizer _ questions] at hfail
    exact (stands_after synthesizer platformDirectory artifact questions).calls_of_allFail hfail
  asked := by
    rintro before after rfl
    have h := (stands_after synthesizer platformDirectory artifact before).isSynthesized_iff
    rw [outcomes_replies] at h
    rw [reply_at, replies_snoc]
    exact ⟨_, rfl, h, rfl⟩
  failed := by
    rintro before after fault rfl hreply
    rw [reply_at, Option.some.injEq] at hreply
    rw [replies_snoc]
    exact cache_get_of_error (Reply.entryPoint.inj hreply)

/-- A synthesizer whose calls fail but the one of number 1. -/
def secondCallSucceeds : Synthesizer :=
  fun i _ artifact =>
    if i = 1 then .ok ⟨"dummyMainClass", artifact.text⟩ else .error (.entrySynthesis "unreadable")

/-- Three requests make two calls, and the last of them gets what the second has built. -/
theorem three_requests_make_two_calls :
    FirstSuccess ((new ⟨"platforms"⟩ ⟨"app.apk"⟩).outcomes secondCallSucceeds) 1
      ⟨"dummyMainClass", "app.apk"⟩ ∧
    ((new ⟨"platforms"⟩ ⟨"app.apk"⟩).replies secondCallSucceeds
        [.entryPoint, .isSynthesized, .entryPoint, .entryPoint]).2.calls = 2 ∧
    ((new ⟨"platforms"⟩ ⟨"app.apk"⟩).replies secondCallSucceeds
        [.entryPoint, .isSynthesized, .entryPoint, .entryPoint]).1[3]? =
      some (.entryPoint (.ok ⟨"dummyMainClass", "app.apk"⟩)) := by
  have hfirst : FirstSuccess ((new ⟨"platforms"⟩ ⟨"app.apk"⟩).outcomes secondCallSucceeds) 1
      ⟨"dummyMainClass", "app.apk"⟩ := by
    refine ⟨rfl, fun i hi => ⟨.entrySynthesis "unreadable", ?_⟩⟩
    obtain rfl : i = 0 := by omega
    rfl
  have h := an_entry_point_is_built_at_most_once secondCallSucceeds ⟨"platforms"⟩ ⟨"app.apk"⟩
    [.entryPoint, .isSynthesized, .entryPoint, .entryPoint]
  exact ⟨hfirst, h.calls 1 _ hfirst,
    (h.kept [.entryPoint, .isSynthesized, .entryPoint] [] 1 _ rfl hfirst (by decide)).1⟩

end AppBoundary.EntryPointProvider
