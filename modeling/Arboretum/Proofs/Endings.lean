import Arboretum.Proofs.InFlight
import Arboretum.Proofs.SessionSteps

/-!
# How the acquisitions of a session end

Whether an acquisition has ended, and how, is said by the events of a run: it ran, and then its end
came.

* `Session.Runs`, `Session.Ended`: an acquisition that runs, and one that has ended in a run.
* `Session.ended_iff`: the channel of an acquisition shows exactly that. So an acquisition that was
  started runs or has ended (`runs_or_ended`), and an epoch has one end at most (`Ended.unique`).
* `Ended.state`, `Ended.afterLoad`, `Ended.start`: once the acquisition of the current epoch has
  ended, the loader shows it, and calls get its reply and start nothing.
* `Ended.kept_run`, `Runs.ended_span`: that is so up to the next invalidation.
-/

namespace Arboretum

theorem Ending.channel_injective (release : Release) (epoch : Nat) :
    Function.Injective (Ending.channel release epoch) := by
  intro first second h
  cases first <;> cases second <;> simp_all [channel, outcome?]

namespace Loader.Sound

variable {loader : Loader}

/-- A channel is silent or shows how its acquisition has ended. -/
theorem channel (h : loader.Sound) {i epoch : Nat} {channel : Channel}
    (hi : loader.started[i]? = some ⟨epoch, channel⟩) :
    channel = .silent ∨ ∃ ending : Ending, channel = ending.channel loader.release epoch := by
  obtain ⟨endings, busy, hfits⟩ := h
  exact (hfits.channel i epoch channel hi).imp_right fun heq => ⟨endings i, heq⟩

theorem index_inj (h : loader.Sound) {i j epoch : Nat} {c d : Channel}
    (hi : loader.started[i]? = some ⟨epoch, c⟩) (hj : loader.started[j]? = some ⟨epoch, d⟩) :
    i = j := by
  obtain ⟨endings, busy, hfits⟩ := h
  exact hfits.index_inj hi hj

end Loader.Sound

/-- A call that loads after the end of the acquisition of the current epoch gets its reply. -/
theorem Loader.Fits.afterLoad_of_ended {endings : Nat → Ending} {busy : List Nat} {loader : Loader}
    (h : loader.Fits endings busy) {i : Nat} {ending : Ending}
    (hi : loader.started[i]? = some ⟨loader.epoch, ending.channel loader.release loader.epoch⟩)
    (request : Request) :
    request.afterLoad loader =
      request.verdict (ending.reply loader.package loader.release loader.epoch) := by
  have hcurrent := h.current_of_ended hi
  cases ending with
  | acquired engine =>
    rw [Request.afterLoad, load_of_settled hcurrent]
    rfl
  | failed cause =>
    rw [Request.afterLoad, load_of_settled hcurrent]
    rfl
  | abandoned =>
    rw [Request.afterLoad, load_of_loading hcurrent]
    simp only [Request.afterWait, received?_of_ended hi]

namespace Request

variable {request : Request} {loader : Loader} {i epoch : Nat}

theorem afterWait_of_silent (h : loader.started[i]? = some ⟨epoch, .silent⟩) :
    request.afterWait loader i = .waits i := by
  simp only [afterWait, Loader.received?, h]

theorem afterWait_of_ended {ending : Ending}
    (h : loader.started[i]? = some ⟨epoch, ending.channel loader.release epoch⟩) :
    request.afterWait loader i =
      request.verdict (ending.reply loader.package loader.release epoch) := by
  simp only [afterWait, Loader.received?_of_ended h]

end Request

namespace Session

/-- The `i`-th acquisition of a release runs; it was started for an epoch. -/
def Runs (s : Session) (release : Release) (i epoch : Nat) : Prop :=
  (s.engines.loader release).started[i]? = some ⟨epoch, .silent⟩

/-- **The `i`-th acquisition of a release, started for an epoch, has ended so** in the course of a
run. -/
def Ended (package : String) (events : List Event) (release : Release) (i epoch : Nat)
    (ending : Ending) : Prop :=
  ∃ before after, events = before ++ .acquired release i ending :: after ∧
    ((new package).run before).Runs release i epoch

variable {package : String} {events : List Event} {release : Release} {i epoch : Nat}
  {ending : Ending}

/-! ## Ends and channels -/

/-- An acquisition that runs ends by its end. -/
theorem Runs.ended (h : ((new package).run events).Runs release i epoch) (ending : Ending) :
    Ended package (events ++ [.acquired release i ending]) release i epoch ending :=
  ⟨events, [], rfl, h⟩

/-- An end is for good. -/
theorem Ended.append (h : Ended package events release i epoch ending) (later : List Event) :
    Ended package (events ++ later) release i epoch ending := by
  obtain ⟨before, after, rfl, hruns⟩ := h
  exact ⟨before, after ++ later, by simp, hruns⟩

theorem ended_concat {event : Event} :
    Ended package (events ++ [event]) release i epoch ending ↔
      Ended package events release i epoch ending ∨
        event = .acquired release i ending ∧ ((new package).run events).Runs release i epoch :=
  exists_split_concat (fun before => ((new package).run before).Runs release i epoch) events event _

/-- What a channel shows after an event it has shown before, or the event was the end of its
acquisition. -/
theorem LoaderStep.ended {loader next : Loader} {event : Event}
    (h : LoaderStep release loader event next) (hrelease : loader.release = release)
    (hi : next.started[i]? = some ⟨epoch, ending.channel release epoch⟩) :
    loader.started[i]? = some ⟨epoch, ending.channel release epoch⟩ ∨
      event = .acquired release i ending ∧ loader.started[i]? = some ⟨epoch, .silent⟩ := by
  cases h with
  | same => exact .inl hi
  | invalidate => exact .inl hi
  | load =>
    cases hcurrent : loader.current with
    | absent =>
      rw [Loader.load_of_absent hcurrent, Loader.spawn, List.getElem?_append] at hi
      split at hi
      · exact .inl hi
      · have hnew := List.mem_singleton.mp (List.mem_of_getElem? hi)
        exact absurd (congrArg Acquisition.channel hnew) (Ending.channel_ne_silent _ _ _)
    | loading j =>
      rw [Loader.load_of_loading hcurrent] at hi
      exact .inl hi
    | settled outcome =>
      rw [Loader.load_of_settled hcurrent] at hi
      exact .inl hi
  | finish j other =>
    rcases loader.finish_cases j other with hsame | ⟨e, hrun⟩
    · rw [hsame] at hi
      exact .inl hi
    · rw [Loader.started_finish_of_running hrun, hrelease] at hi
      split at hi
      · rename_i hji
        subst hji
        have heq := Option.some.inj hi
        obtain rfl : e = epoch := congrArg Acquisition.epoch heq
        obtain rfl : other = ending :=
          Ending.channel_injective release e (congrArg Acquisition.channel heq)
        exact .inr ⟨rfl, hrun⟩
      · exact .inl hi

/-- **The channel of an acquisition shows how it has ended**, if it has. -/
theorem ended_iff :
    Ended package events release i epoch ending ↔
      (((new package).run events).engines.loader release).started[i]? =
        some ⟨epoch, ending.channel release epoch⟩ := by
  induction events using List.reverseRecOn with
  | nil =>
    constructor
    · rintro ⟨before, after, hevents, -⟩
      simp at hevents
    · intro hi
      have hnone : ((new package).engines.loader release).started = [] := by rw [loader_new]; rfl
      rw [run, List.foldl_nil, hnone] at hi
      cases hi
  | append_singleton events event ih =>
    have hrelease := (provides_run package events release).release_eq
    rw [ended_concat, ih, run_concat]
    constructor
    · rintro (hi | ⟨rfl, hruns⟩)
      · obtain ⟨shown, hshown, hkept⟩ := (loader_step _ event release).started hi
        rw [hshown, hkept (Ending.channel_ne_silent _ _ _)]
      · rw [step, EngineSet.loader_finish, if_pos rfl, Loader.started_finish_of_running hruns,
          if_pos rfl, hrelease]
    · exact (loader_step _ event release).ended hrelease

/-- An acquisition that was started runs or has ended. -/
theorem runs_or_ended {channel : Channel}
    (hi : (((new package).run events).engines.loader release).started[i]? =
      some ⟨epoch, channel⟩) :
    ((new package).run events).Runs release i epoch ∨
      ∃ ending, Ended package events release i epoch ending := by
  have hprovides := provides_run package events release
  rcases hprovides.sound.channel hi with rfl | ⟨ending, rfl⟩
  · exact .inl hi
  · rw [hprovides.release_eq] at hi
    exact .inr ⟨ending, ended_iff.mpr hi⟩

/-- An epoch acquires at most once, so it has one end at most. -/
theorem Ended.unique (h : Ended package events release i epoch ending) {j : Nat} {other : Ending}
    (hother : Ended package events release j epoch other) : i = j ∧ ending = other := by
  rw [ended_iff] at h hother
  obtain rfl := (provides_run package events release).sound.index_inj h hother
  rw [h] at hother
  exact ⟨rfl, Ending.channel_injective release epoch
    (congrArg Acquisition.channel (Option.some.inj hother))⟩

/-- A call that waits for an acquisition gets the reply to its end. -/
theorem Ended.afterWait (h : Ended package events release i epoch ending) (request : Request) :
    request.afterWait (((new package).run events).engines.loader release) i =
      request.verdict (ending.reply package release epoch) := by
  have hprovides := provides_run package events release
  have hi : (((new package).run events).engines.loader release).started[i]? =
      some ⟨epoch, ending.channel (((new package).run events).engines.loader release).release
        epoch⟩ := by
    rw [hprovides.release_eq]
    exact ended_iff.mp h
  rw [Request.afterWait_of_ended hi, hprovides.package_eq, hprovides.release_eq]

/-! ## The current epoch -/

/-- No acquisition was started for the current epoch, or one runs, or it has ended. -/
theorem acquisition_cases (package : String) (events : List Event) (release : Release) :
    let s := (new package).run events
    let loader := s.engines.loader release
    loader.current = .absent ∧ (∀ acquisition ∈ loader.started, acquisition.epoch ≠ loader.epoch) ∨
      (∃ i, s.Runs release i loader.epoch) ∨
      ∃ i ending, Ended package events release i loader.epoch ending := by
  intro s loader
  obtain ⟨endings, busy, hfits⟩ := (provides_run package events release).sound
  have hslot : loader.current.Fits loader.started loader.epoch := hfits.slot
  have hstarted : (∃ (i : Nat) (channel : Channel),
      loader.started[i]? = some ⟨loader.epoch, channel⟩) →
      (∃ i, s.Runs release i loader.epoch) ∨
        ∃ i ending, Ended package events release i loader.epoch ending := by
    rintro ⟨i, channel, hi⟩
    exact (runs_or_ended hi).imp (fun hruns => ⟨i, hruns⟩) fun hended => ⟨i, hended⟩
  cases hcurrent : loader.current with
  | absent =>
    rw [hcurrent] at hslot
    exact .inl ⟨rfl, hslot⟩
  | loading i =>
    rw [hcurrent] at hslot
    obtain ⟨channel, hi, -⟩ := hslot
    exact .inr (hstarted ⟨i, channel, hi⟩)
  | settled outcome =>
    rw [hcurrent] at hslot
    obtain ⟨i, hi⟩ := hslot
    exact .inr (hstarted ⟨i, _, hi⟩)

namespace Ended

variable {loader : Loader}

/-- The loader in which the acquisition of the current epoch has ended. -/
theorem fits (hloader : ((new package).run events).engines.loader release = loader)
    (h : Ended package events release i loader.epoch ending) :
    (∃ endings busy, loader.Fits endings busy) ∧
      loader.started[i]? = some ⟨loader.epoch, ending.channel loader.release loader.epoch⟩ := by
  have hprovides := provides_run package events release
  rw [ended_iff, hloader] at h
  have hrelease := hprovides.release_eq
  have hsound := hprovides.sound
  rw [hloader] at hrelease hsound
  rw [hrelease]
  exact ⟨hsound, h⟩

theorem state (hloader : ((new package).run events).engines.loader release = loader)
    (h : Ended package events release i loader.epoch ending) : loader.state = ending.shown := by
  obtain ⟨⟨endings, busy, hfits⟩, hi⟩ := h.fits hloader
  exact hfits.state_of_ended hi

theorem load (hloader : ((new package).run events).engines.loader release = loader)
    (h : Ended package events release i loader.epoch ending) : loader.load.1 = loader := by
  obtain ⟨⟨endings, busy, hfits⟩, hi⟩ := h.fits hloader
  exact (hfits.load_of_ended hi).1

theorem starts? (hloader : ((new package).run events).engines.loader release = loader)
    (h : Ended package events release i loader.epoch ending) : loader.starts? = none := by
  obtain ⟨⟨endings, busy, hfits⟩, hi⟩ := h.fits hloader
  rw [Loader.starts?, hfits.current_of_ended hi]
  cases ending <;> rfl

/-- A call that loads gets the reply to the end. -/
theorem afterLoad (hloader : ((new package).run events).engines.loader release = loader)
    (h : Ended package events release i loader.epoch ending) (request : Request) :
    request.afterLoad loader =
      request.verdict (ending.reply package release loader.epoch) := by
  obtain ⟨⟨endings, busy, hfits⟩, hi⟩ := h.fits hloader
  have hprovides := provides_run package events release
  have hpackage := hprovides.package_eq
  have hrelease := hprovides.release_eq
  rw [hloader] at hpackage hrelease
  rw [hfits.afterLoad_of_ended hi, hpackage, hrelease]

/-- A load or a parse after the end gets its reply at once and starts nothing. -/
theorem start {request : Request}
    (hloader : ((new package).run events).engines.loader request.release = loader)
    (h : Ended package events request.release i loader.epoch ending)
    (hversion : request.isVersion = false) (hrefusal : request.refusal? = none) :
    let s := (new package).run events
    (s.start request).calls[s.calls.length]? =
        some ⟨request,
          (request.verdict (ending.reply package request.release loader.epoch)).phase⟩ ∧
      (s.start request).started = s.started := by
  intro s
  have hverdict : request.afterLoad ((s.enlist request).engines.loader request.release) =
      request.verdict (ending.reply package request.release loader.epoch) :=
    (congrArg request.afterLoad hloader).trans (h.afterLoad hloader request)
  have hstarts : ((s.enlist request).engines.loader request.release).starts? = none :=
    (congrArg Loader.starts? hloader).trans (h.starts? hloader)
  rw [start_of_not_version hversion hrefusal, loadEngine_eq, hverdict,
    conclude_of_not_version _ _ hversion (Request.jobs_verdict_of_not_version hversion _ _)]
  constructor
  · simp [setPhase, enter, enlist]
  · rw [setPhase, enter, hstarts]
    exact List.append_nil _

/-- An event other than an invalidation begins no epoch and no acquisition. -/
theorem kept_step (hloader : ((new package).run events).engines.loader release = loader)
    (h : Ended package events release i loader.epoch ending) {event : Event}
    (hevent : event ≠ .invalidate release) {next : Loader}
    (hnext : ((new package).run (events ++ [event])).engines.loader release = next) :
    next.epoch = loader.epoch ∧ next.acquisitions = loader.acquisitions := by
  have hstep := loader_step ((new package).run events) event release
  rw [← run_concat, hnext, hloader] at hstep
  cases hstep with
  | same => exact ⟨rfl, rfl⟩
  | load =>
    rw [h.load hloader]
    exact ⟨rfl, rfl⟩
  | invalidate => exact absurd rfl hevent
  | finish j other => exact ⟨loader.epoch_finish j other, loader.acquisitions_finish j other⟩

/-- **Up to the next invalidation there is neither another epoch nor another acquisition.** -/
theorem kept_run (hloader : ((new package).run events).engines.loader release = loader)
    (h : Ended package events release i loader.epoch ending) {span : List Event}
    (hspan : .invalidate release ∉ span) {next : Loader}
    (hnext : ((new package).run (events ++ span)).engines.loader release = next) :
    next.epoch = loader.epoch ∧ next.acquisitions = loader.acquisitions := by
  induction span using List.reverseRecOn generalizing next with
  | nil =>
    rw [List.append_nil, hloader] at hnext
    rw [hnext]
    exact ⟨rfl, rfl⟩
  | append_singleton span event ih =>
    rw [List.mem_append, not_or, List.mem_singleton] at hspan
    obtain ⟨hepoch, hcount⟩ := ih hspan.1 rfl
    rw [← List.append_assoc] at hnext
    have hended := h.append span
    rw [← hepoch] at hended
    obtain ⟨hepoch', hcount'⟩ := kept_step rfl hended (fun heq => hspan.2 heq.symm) hnext
    exact ⟨hepoch'.trans hepoch, hcount'.trans hcount⟩

end Ended

/-- The end of the acquisition that runs for the current epoch, up to the next invalidation. -/
theorem Runs.ended_span {loader : Loader}
    (hloader : ((new package).run events).engines.loader release = loader)
    (h : ((new package).run events).Runs release i loader.epoch) (ending : Ending)
    {span : List Event} (hspan : .invalidate release ∉ span) {next : Loader}
    (hnext : ((new package).run (events ++ .acquired release i ending :: span)).engines.loader
      release = next) :
    Ended package (events ++ .acquired release i ending :: span) release i next.epoch ending ∧
      next.epoch = loader.epoch ∧ next.acquisitions = loader.acquisitions := by
  have hsettled : ((new package).run (events ++ [.acquired release i ending])).engines.loader
      release = loader.finish i ending := by
    rw [run_concat, step, EngineSet.loader_finish, if_pos rfl, hloader]
  have hended := h.ended ending
  rw [← loader.epoch_finish i ending] at hended
  rw [List.append_cons] at hnext ⊢
  obtain ⟨hepoch, hcount⟩ := hended.kept_run hsettled hspan hnext
  refine ⟨?_, hepoch.trans (loader.epoch_finish i ending),
    hcount.trans (loader.acquisitions_finish i ending)⟩
  rw [hepoch]
  exact hended.append span

end Session

end Arboretum
