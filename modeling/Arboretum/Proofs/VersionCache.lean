import Arboretum.Proofs.VersionTurns

/-!
# Versions are resolved once

The cache of versions remembers successes and nothing else. What it does is said here by the calls
of a run alone: which of them have succeeded so far, and which are open.

* `Session.value_run`: a text is known exactly when a call of the run has succeeded with it.
* `Session.start_of_known`, `Session.waiting_run`, `Session.quiet_of_known`: a known text is the
  answer to every later call and to every call that waits, and no call for it starts anything.
* `Session.versions_resolved_once`: these, and what the turns at an unknown version come to.
-/

namespace Arboretum

namespace Session

variable {s : Session} {release : Release} {text : String} {k : Nat} {adapter : Adapter}

/-! ## Known texts -/

/-- A call for the version of a release has succeeded in the course of a run. -/
def Succeeded (package : String) (events : List Event) (release : Release) (text : String) : Prop :=
  ∃ before, before <+: events ∧
    ∃ k, ((new package).run before).At release k (.finished (.version text))

theorem orderly_run (package : String) (events : List Event) :
    ((new package).run events).Orderly :=
  (orderly_new package).run events

/-- **A text is known exactly when a call has succeeded with it.** -/
theorem value_run (package : String) (events : List Event) (release : Release) (text : String) :
    (((new package).run events).versions.get release).value = some text ↔
      Succeeded package events release text := by
  induction events using List.reverseRecOn generalizing text with
  | nil =>
    constructor
    · intro hvalue
      cases hvalue
    · rintro ⟨before, hbefore, k, adapter, hk⟩
      rw [List.prefix_nil.mp hbefore] at hk
      cases hk
  | append_singleton events event ih =>
    have hadvances := (orderly_run package events).step event
    constructor
    · intro hvalue
      rw [run_concat] at hvalue
      -- Either the text was known before the event, or the event made it known.
      cases hbefore : (((new package).run events).versions.get release).value with
      | some old =>
        have hkept := hadvances.kept release old hbefore
        rw [hvalue] at hkept
        obtain ⟨before, hfront, hk⟩ := (ih old).mp hbefore
        rw [Option.some.inj hkept]
        exact ⟨before, hfront.trans (List.prefix_append _ _), hk⟩
      | none =>
        obtain ⟨k, hk⟩ := hadvances.found release text hbefore hvalue
        rw [← run_concat] at hk
        exact ⟨_, List.prefix_rfl, k, hk⟩
    · rintro ⟨before, hfront, k, hk⟩
      rcases List.prefix_concat_iff.mp hfront with rfl | hearlier
      · exact (orderly_run package _ release).kept k text hk
      · rw [run_concat]
        exact hadvances.kept release text ((ih text).mpr ⟨before, hearlier, k, hk⟩)

/-- A call at a known version is answered at once, and nothing else changes. -/
theorem start_of_known (hvalue : (s.versions.get release).value = some text)
    (hallowed : adapter.checkOverride release = .ok ()) :
    s.start (.version adapter release) =
      { s with calls := s.calls ++ [⟨.version adapter release, .finished (.version text)⟩] } := by
  have henlisted : ((s.enlist (.version adapter release)).versions.get release).value = some text :=
    hvalue
  rw [start_version (refusal?_version hallowed), joinQueue_of_known henlisted,
    versionTurn_of_known henlisted, ← calls_setPhase_enlist]
  rfl

/-- A call that waits at a known version takes the text when it goes on. -/
theorem resume_of_known (hvalue : (s.versions.get release).value = some text)
    (hk : s.calls[k]? = some ⟨.version adapter release, .queued⟩) :
    s.resume k = s.finish k (.version text) := by
  simp only [resume, hk]
  exact versionTurn_of_known hvalue k adapter

/-- A call that has finished stays as it is unless it is given up. -/
theorem getElem?_step_of_finished {request : Request} {reply : Reply} {event : Event}
    (hk : s.calls[k]? = some ⟨request, .finished reply⟩) (hevent : event ≠ .cancel k) :
    (s.step event).calls[k]? = some ⟨request, .finished reply⟩ := by
  by_cases hticket : event.ticket? = some k
  · cases event with
    | cancel j =>
      cases hticket
      exact absurd rfl hevent
    | resume j =>
      cases hticket
      simp only [step, resume, hk]
    | fetched j answer =>
      cases hticket
      simp only [step, fetched, hk]
    | _ => cases hticket
  · rw [getElem?_step_of_ne s (List.getElem?_eq_some_iff.mp hk).1 hticket, hk]

theorem getElem?_run_of_finished {request : Request} {reply : Reply} {later : List Event}
    (hk : s.calls[k]? = some ⟨request, .finished reply⟩) (hlater : .cancel k ∉ later) :
    (s.run later).calls[k]? = some ⟨request, .finished reply⟩ := by
  induction later using List.reverseRecOn with
  | nil => exact hk
  | append_singleton later event ih =>
    rw [List.mem_append, not_or, List.mem_singleton] at hlater
    rw [run_concat]
    exact getElem?_step_of_finished (ih hlater.1) fun heq => hlater.2 heq.symm

/-- What becomes of a call that waits at a known version. -/
theorem waiting_step (hvalue : (s.versions.get release).value = some text)
    (hk : s.At release k .queued) {event : Event} (hevent : event ≠ .cancel k) :
    (s.step event).At release k (.finished (.version text)) ∨
      (s.step event).At release k .queued ∧ event ≠ .resume k := by
  obtain ⟨adapter, hcall⟩ := hk
  by_cases hticket : event.ticket? = some k
  · cases event with
    | cancel j =>
      cases hticket
      exact absurd rfl hevent
    | resume j =>
      cases hticket
      refine .inl ⟨adapter, ?_⟩
      rw [step, resume_of_known hvalue hcall, finish, getElem?_setPhase, if_pos rfl, hcall]
      rfl
    | fetched j answer =>
      cases hticket
      refine .inr ⟨⟨adapter, ?_⟩, by simp⟩
      simp only [step, fetched, hcall]
    | _ => cases hticket
  · refine .inr ⟨⟨adapter, ?_⟩, fun heq => hticket (heq ▸ rfl)⟩
    rw [getElem?_step_of_ne s (List.getElem?_eq_some_iff.mp hcall).1 hticket, hcall]

/-- A call that waits at a known version gets the text as soon as it goes on. -/
theorem waiting_run (horderly : s.Orderly) (hvalue : (s.versions.get release).value = some text)
    (hk : s.At release k .queued) {later : List Event} (hlater : .cancel k ∉ later) :
    (s.run later).At release k (.finished (.version text)) ∨
      (s.run later).At release k .queued ∧ .resume k ∉ later := by
  have hknown : ((s.run later).versions.get release).value = some text ∧
      ((s.run later).At release k (.finished (.version text)) ∨
        (s.run later).At release k .queued ∧ .resume k ∉ later) := by
    induction later using List.reverseRecOn with
    | nil => exact ⟨hvalue, .inr ⟨hk, List.not_mem_nil⟩⟩
    | append_singleton later event ih =>
      rw [List.mem_append, not_or, List.mem_singleton] at hlater
      obtain ⟨hbefore, hstands⟩ := ih hlater.1
      have hevent : event ≠ .cancel k := fun heq => hlater.2 heq.symm
      rw [run_concat]
      refine ⟨((horderly.run later).step event).kept release text hbefore, ?_⟩
      rcases hstands with ⟨adapter, hdone⟩ | ⟨hqueued, hnot⟩
      · exact .inl ⟨adapter, getElem?_step_of_finished hdone hevent⟩
      · refine (waiting_step hbefore hqueued hevent).imp_right fun hstill => ⟨hstill.1, ?_⟩
        rw [List.mem_append, not_or, List.mem_singleton]
        exact ⟨hnot, fun heq => hstill.2 heq.symm⟩
  exact hknown.2

/-- No call resolves a known version. -/
theorem not_resolving_of_known (horderly : s.Orderly)
    (hvalue : (s.versions.get release).value = some text) {phase : Phase}
    (hk : s.At release k phase) : phase.isResolving = false := by
  rw [Bool.eq_false_iff]
  intro hresolving
  rw [((horderly release).first k phase hk hresolving).1] at hvalue
  cases hvalue

/-- An event of the calls for the version of a release. -/
def Concerns (s : Session) (release : Release) : Event → Prop
  | .call (.version _ asked) => asked = release
  | .cancel k | .resume k | .fetched k _ => ∃ phase, s.At release k phase
  | _ => False

/-- Calls for a known version start nothing. -/
theorem quiet_of_known (horderly : s.Orderly)
    (hvalue : (s.versions.get release).value = some text) {event : Event}
    (hevent : s.Concerns release event) :
    (s.step event).engines = s.engines ∧ (s.step event).started = s.started := by
  cases event with
  | call request =>
    cases request with
    | version adapter asked =>
      obtain rfl : asked = release := hevent
      cases hrefusal : (Request.version adapter asked).refusal? with
      | some e =>
        rw [step, start_of_refused hrefusal]
        exact ⟨rfl, rfl⟩
      | none =>
        have henlisted :
            ((s.enlist (.version adapter asked)).versions.get asked).value = some text := hvalue
        rw [step, start_version hrefusal, joinQueue_of_known henlisted,
          versionTurn_of_known henlisted]
        exact ⟨rfl, rfl⟩
    | _ => cases hevent
  | cancel k =>
    obtain ⟨phase, adapter, hk⟩ := hevent
    simp only [step, cancel, hk]
    cases phase <;> exact ⟨rfl, rfl⟩
  | resume k =>
    obtain ⟨phase, adapter, hk⟩ := hevent
    have hphase := not_resolving_of_known horderly hvalue ⟨adapter, hk⟩
    cases phase with
    | queued =>
      rw [step, resume_of_known hvalue hk]
      exact ⟨rfl, rfl⟩
    | loading acquisition => cases hphase
    | fetching => cases hphase
    | finished reply => simp only [step, resume, hk, and_self]
    | cancelled => simp only [step, resume, hk, and_self]
  | fetched k answer =>
    obtain ⟨phase, adapter, hk⟩ := hevent
    have hphase := not_resolving_of_known horderly hvalue ⟨adapter, hk⟩
    cases phase with
    | fetching => cases hphase
    | _ => simp only [step, fetched, hk, and_self]
  | _ => cases hevent

/-! ## All together -/

theorem unknown_iff (package : String) (events : List Event) (release : Release) :
    (((new package).run events).versions.get release).value = none ↔
      ∀ text, ¬ Succeeded package events release text := by
  rw [Option.eq_none_iff_forall_ne_some]
  exact forall_congr' fun text => not_congr (value_run package events release text)

/-- **Versions are resolved once.** After every run, for each release:

* at most one call for its version is resolving it;
* once a call has succeeded with a text, none is resolving it, every later call that may choose the
  release gets the text at once and changes nothing else, every call that waits gets it as soon as
  it goes on, unless it is given up, and no call for the version touches a loader or starts a fetch;
* as long as none has succeeded, the next call to have its turn resolves the version: a side channel
  is asked without the engine; the engine is acquired if the epoch has no acquisition, one that runs
  is joined, and one that has ended answers, its failure being raised again with the loader as it is
  and no work started. A call that waits for the engine or for metadata ends by what they come to,
  and one that is given up leaves its acquisition alone. While an older call is open, the others wait
  and do nothing. No call is moved but by an event of its own, and one that fails or is given up
  leaves the version unknown and the turn to whoever is next. -/
theorem versions_resolved_once (package : String) (events : List Event) (release : Release) :
    let s := (new package).run events
    let loader := s.engines.loader release
    (∀ j k phase other, s.At release j phase → s.At release k other →
      phase.isResolving = true → other.isResolving = true → j = k) ∧
    (∀ text, Succeeded package events release text →
      (∀ k phase, s.At release k phase → phase.isResolving = false) ∧
      (∀ adapter, adapter.checkOverride release = .ok () →
        s.step (.call (.version adapter release)) =
          { s with
            calls := s.calls ++ [⟨.version adapter release, .finished (.version text)⟩] }) ∧
      (∀ k later, s.At release k .queued → .cancel k ∉ later →
        (s.run later).At release k (.finished (.version text)) ∨
          (s.run later).At release k .queued ∧ .resume k ∉ later) ∧
      ∀ event, s.Concerns release event →
        (s.step event).engines = s.engines ∧ (s.step event).started = s.started) ∧
    ((∀ text, ¬ Succeeded package events release text) →
      (∀ event k adapter, s.TakesTurn release event k adapter →
        let t := s.step event
        ∃ phase jobs, Resolves package events loader adapter release k phase jobs ∧
          t.At release k phase ∧ t.started = s.started ++ jobs ∧
          ∀ other, let held := s.engines.loader other
            t.engines.loader other =
              if .acquisition other held.started.length ∈ jobs then held.spawn else held) ∧
      (∀ k adapter i epoch, s.calls[k]? = some ⟨.version adapter release, .loading i⟩ →
        (s.Runs release i epoch → s.step (.resume k) = s) ∧
        ∀ ending, Ended package events release i epoch ending →
          let t := s.step (.resume k)
          ∃ phase jobs,
            adapter.Answers release k (ending.reply package release epoch) phase jobs ∧
            t.At release k phase ∧ t.started = s.started ++ jobs ∧ t.engines = s.engines) ∧
      (∀ k adapter answer, s.calls[k]? = some ⟨.version adapter release, .fetching⟩ →
        let t := s.step (.fetched k answer)
        t.At release k (.finished (.ofVersion (Metadata.result adapter.package answer))) ∧
          t.started = s.started ∧ t.engines = s.engines) ∧
      (∀ k phase, s.At release k phase →
        let t := s.step (.cancel k)
        t.At release k .cancelled ∧ t.started = s.started ∧ t.engines = s.engines) ∧
      (∀ j phase, s.At release j phase → phase.isOpen = true →
        (∀ k adapter, s.calls[k]? = some ⟨.version adapter release, .queued⟩ → j < k →
          s.step (.resume k) = s) ∧
        ∀ adapter, adapter.checkOverride release = .ok () →
          let t := s.step (.call (.version adapter release))
          t.At release s.calls.length .queued ∧ t.started = s.started ∧ t.engines = s.engines) ∧
      (∀ event (k : Nat), k < s.calls.length → event.ticket? ≠ some k →
        (s.step event).calls[k]? = s.calls[k]?) ∧
      ∀ event gone lost, event.ticket? = some gone →
        let t := s.step event
        t.At release gone lost → lost.isLost = true →
        (∀ text, ¬ Succeeded package (events ++ [event]) release text) ∧
        ∀ next k adapter, s.IsNext release gone next k adapter →
          t.TakesTurn release next k adapter) := by
  intro s loader
  have horderly : s.Orderly := orderly_run package events
  refine ⟨?_, ?_, ?_⟩
  · intro j k phase other hj hk hphase hother
    have hfirst := ((horderly release).first j phase hj hphase).2
    rw [((horderly release).first k other hk hother).2] at hfirst
    exact (Option.some.inj hfirst).symm
  · intro text hsucceeded
    have hvalue := (value_run package events release text).mpr hsucceeded
    exact ⟨fun k phase hk => not_resolving_of_known horderly hvalue hk,
      fun adapter hallowed => start_of_known hvalue hallowed,
      fun k later hk hlater => waiting_run horderly hvalue hk hlater,
      fun event hevent => quiet_of_known horderly hvalue hevent⟩
  · intro hnone
    have hvalue : (s.versions.get release).value = none :=
      (unknown_iff package events release).mpr hnone
    refine ⟨fun event k adapter hturn => resolves_of_turn hvalue hturn,
      fun k adapter i epoch hk => ⟨resume_of_runs hk, fun ending => answers_of_ended hk⟩,
      fun k adapter answer hk => fetched_of_fetching hk answer,
      fun k phase hk => cancelled_of_at hk,
      fun j phase hj hopen =>
        ⟨fun k adapter hk hlt => resume_of_older horderly hvalue hj hopen hk hlt,
          fun adapter hallowed => start_of_open horderly hvalue hj hopen hallowed⟩,
      fun event k hk hne => getElem?_step_of_ne s hk hne, ?_⟩
    intro event gone lost habout t hgone hlost
    refine ⟨?_, fun next k adapter hnext => turn_passes habout hgone hlost hnext⟩
    rw [← unknown_iff, run_concat]
    exact unknown_of_lost horderly hvalue habout hgone hlost

/-- Two calls ask for the version of an engine. The first, which has started its acquisition, is
given up; the second joins that acquisition and, as the engine reports no version, asks a service.
The service fails it and answers the third call, which asks anew; what comes after that asks
nobody. -/
theorem versions_resolved_once_after_cancellation :
    let adapter : Adapter :=
      { id := "stub", label := "Stub", editorLanguage := "stub", package := "stub",
        versionSource := .engineOrMetadata (.remote "registry") }
    let engine : Engine := .ofParse "stub" none fun code _ => .ok (.str code)
    let asked : Event := .call (.version adapter none)
    let joined : List Event := [asked, asked, .cancel 0, .resume 1]
    let failed : List Event := joined ++ [.acquired none 0 (.acquired engine), .resume 1,
      .fetched 1 (.error (.reported "out of reach" []))]
    let found : List Event := failed ++ [asked, .fetched 2 (.ok " 1.0.0")]
    let t := (new "stub").run joined
    let u := (new "stub").run found
    (t.started = [.acquisition none 0] ∧ t.At none 1 (.loading 0)) ∧
    ((new "stub").run failed).started = [.acquisition none 0, .fetch "registry" 1] ∧
    Succeeded "stub" found none "stub@1.0.0" ∧
    (u.step asked).started =
      [.acquisition none 0, .fetch "registry" 1, .fetch "registry" 2] := by
  intro adapter engine asked joined failed found t u
  have hunknown : ∀ text, ¬ Succeeded "stub" [asked, asked] none text :=
    (unknown_iff "stub" [asked, asked] none).mp (by decide)
  obtain ⟨-, -, -, hcancel, -, -, hlost⟩ :=
    (versions_resolved_once "stub" [asked, asked] none).2.2 hunknown
  have hgone := (hcancel 0 (.loading 0) ⟨adapter, rfl⟩).1
  obtain ⟨hunknown', hpasses⟩ := hlost (.cancel 0) 0 .cancelled rfl hgone rfl
  have hturn := hpasses (.resume 1) 1 adapter
    (.resume (by decide) rfl fun j phase _ _ hj => Nat.pos_of_ne_zero hj)
  rw [← run_concat] at hturn
  obtain ⟨hresolved, -⟩ :=
    (versions_resolved_once "stub" ([asked, asked] ++ [.cancel 0]) none).2.2 hunknown'
  obtain ⟨phase, jobs, hresolves, hat, hstarted, -⟩ := hresolved (.resume 1) 1 adapter hturn
  have hjoins : phase = .loading 0 ∧ jobs = [] := by
    have hloader : (((new "stub").run ([asked, asked] ++ [.cancel 0])).engines.loader
        none).started = [⟨0, .silent⟩] := rfl
    cases hresolves with
    | requested side => cases side
    | aside side => cases side
    | starts engine fresh => exact absurd rfl (fresh ⟨0, .silent⟩ (hloader ▸ List.mem_cons_self))
    | joins engine runs =>
      rename_i i
      rw [Runs, hloader] at runs
      have hi : i < 1 := (List.getElem?_eq_some_iff.mp runs).1
      obtain rfl : i = 0 := by omega
      exact ⟨rfl, rfl⟩
    | ended engine ended answers =>
      rw [ended_iff, hloader] at ended
      have hsilent := List.mem_singleton.mp (List.mem_of_getElem? ended)
      exact absurd (congrArg Acquisition.channel hsilent) (Ending.channel_ne_silent _ _ _)
  obtain ⟨rfl, rfl⟩ := hjoins
  rw [← run_concat] at hat hstarted
  have hfound : Succeeded "stub" found none "stub@1.0.0" :=
    (value_run "stub" found none "stub@1.0.0").mp (by decide)
  have hknown : u.step asked =
      { u with
        calls := u.calls ++ [⟨.version adapter none, .finished (.version "stub@1.0.0")⟩] } :=
    ((versions_resolved_once "stub" found none).2.1 _ hfound).2.1 adapter rfl
  have hu : u.started = [.acquisition none 0, .fetch "registry" 1, .fetch "registry" 2] := by decide
  refine ⟨⟨hstarted, hat⟩, by decide, hfound, ?_⟩
  simp only [hknown, hu]

end Session

end Arboretum
